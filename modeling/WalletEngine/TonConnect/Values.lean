import WalletEngine.Data.Codec
import WalletEngine.Data.Decimal
import WalletEngine.Data.FormUrl
import WalletEngine.TonConnect.Signing

/-! # TON Connect scalar values

The validated texts, identifiers and addresses of the protocol with their wire forms. What
other libraries do (base64, URLs, JSON texts, cells, session encryption) is given, together
with the facts about them that the protocol code relies on. -/

namespace WalletEngine

/-- A parsed URL: its text and the parts that the protocol code looks at. -/
structure Url where
  text : String
  scheme : String
  hasHost : Bool
  /-- The host is `localhost` or a loopback address. -/
  loopback : Bool
  path : String
  query : Option String
  fragment : Option String
  deriving DecidableEq

/-- The functions of other libraries. -/
structure LibraryFunctions where
  base64Decode (urlSafe padded : Bool) (text : String) : Option (List UInt8)
  base64Encode (urlSafe padded : Bool) (bytes : List UInt8) : String
  crc16 : List UInt8 → UInt16
  /-- The bytes are one complete cell with a single root. -/
  singleRootBoc : List UInt8 → Bool
  /-- The text is the canonical base64 of a wallet's initial state. -/
  walletStateInit : String → Bool
  /-- An internal address in raw or user-friendly form. -/
  parseTonAddress : String → Option TonAddressString
  parseUrl : String → Option Url
  setPath : Url → String → Url
  appendPairs : Url → List (String × String) → Url
  /-- A text, with marks in the place of bytes that are none. -/
  fromUtf8Lossy : List UInt8 → String
  parseJson : List UInt8 → Option Json
  printJson : Json → String
  /-- How a floating-point number is spelt after it has been printed and parsed again. -/
  reread : String → String
  publicKey : Vector UInt8 32 → Vector UInt8 32
  boxEncrypt (secret peer : Vector UInt8 32) (nonce : Vector UInt8 24) (plaintext : List UInt8) :
    Option (List UInt8)
  boxDecrypt (secret peer : Vector UInt8 32) (nonce : Vector UInt8 24) (ciphertext : List UInt8) :
    Option (List UInt8)

/-- A text in the standard or the URL-safe alphabet, with or without padding. -/
def LibraryFunctions.decodeBase64 (lib : LibraryFunctions) (value : String) :
    Option (List UInt8) :=
  let hasStandard := value.toList.any fun c => c == '+' || c == '/'
  let hasUrlSafe := value.toList.any fun c => c == '-' || c == '_'
  if hasStandard && hasUrlSafe then none
  else lib.base64Decode hasUrlSafe (value.toList.getLast? == some '=') value

/-- What a user-friendly address says. -/
structure FriendlyParts where
  raw : RawAccountAddress
  bounceable : Bool
  testOnly : Bool
  deriving DecidableEq

/-- The bounce flag of an address tag without its test bit. -/
def bounceFlag (tag : UInt8) : Option Bool :=
  if tag = 0x11 then some true else if tag = 0x51 then some false else none

/-- The basechain and the masterchain. -/
def friendlyWorkchain (byte : UInt8) : Option Int32 :=
  if byte = 0x00 then some 0 else if byte = 0xff then some (-1) else none

/-- A canonical user-friendly address: tag, workchain, hash and checksum. -/
def LibraryFunctions.friendlyParts (lib : LibraryFunctions) (value : String) : Option FriendlyParts :=
  if value.toList.contains '=' then none
  else (lib.base64Decode true false value).bind fun bytes =>
    if bytes.length ≠ 36 ∨ lib.base64Encode true false bytes ≠ value then none
    else if beBytes 2 (lib.crc16 (bytes.take 34)).toNat ≠ bytes.drop 34 then none
    else
      let tag := bytes.headD 0
      (bounceFlag (tag &&& 0x7f)).bind fun bounceable =>
        (friendlyWorkchain (bytes.getD 1 0)).bind fun workchain =>
          if sized : ((bytes.drop 2).take 32).length = 32 then
            some ⟨⟨workchain, ⟨((bytes.drop 2).take 32).toArray, by simpa using sized⟩⟩,
              bounceable, tag &&& 0x80 != 0⟩
          else none

/-- A document is nested no deeper than this when it is read back. -/
def jsonDepthLimit : Nat := 127

/-- The other libraries with what is relied on. -/
structure Libraries extends LibraryFunctions where
  base64_standard : ∀ bytes,
    toLibraryFunctions.decodeBase64 (base64Encode false true bytes) = some bytes
  base64_urlSafe : ∀ bytes, base64Decode true false (base64Encode true false bytes) = some bytes
  base64_urlSafe_chars : ∀ bytes, ∀ c ∈ (base64Encode true false bytes).toList,
    c.isAlphanum ∨ c = '-' ∨ c = '_'
  base64_urlSafe_nil : base64Encode true false [] = ""
  parseTonAddress_friendly : ∀ {text}, (toLibraryFunctions.friendlyParts text).isSome →
    (parseTonAddress text).isSome
  parseUrl_text : ∀ {text url}, parseUrl text = some url → parseUrl url.text = some url
  appendPairs_query : ∀ {url pairs}, url.query = none → pairs ≠ [] →
    (appendPairs url pairs).query = some (String.ofList (formQuery pairs))
  parseUrl_appendPairs : ∀ {text url} pairs, parseUrl text = some url → url.query = none →
    url.fragment = none → parseUrl (appendPairs url pairs).text = some (appendPairs url pairs)
  fromUtf8Lossy_utf8 : ∀ text, fromUtf8Lossy (utf8 text) = text
  parseJson_printJson : ∀ json, parseJson (utf8 (printJson json)) =
    if json.depth ≤ jsonDepthLimit then some (json.mapFloats reread) else none
  parseJson_nil : parseJson [] = none
  parseJson_depth : ∀ {bytes json}, parseJson bytes = some json → json.depth ≤ jsonDepthLimit

section Texts

/-- A text that passes a check. -/
structure ValidatedString (valid : String → Bool) where
  text : String
  accepted : valid text = true
  deriving DecidableEq

variable {valid : String → Bool}

def ValidatedString.tryFrom (text : String) : Option (ValidatedString valid) :=
  if accepted : valid text = true then some ⟨text, accepted⟩ else none

theorem ValidatedString.tryFrom_text (value : ValidatedString valid) :
    ValidatedString.tryFrom value.text = some value :=
  dif_pos value.accepted

instance : Wire (ValidatedString valid) :=
  ⟨.text ValidatedString.tryFrom ValidatedString.text ValidatedString.tryFrom_text, fun _ => rfl⟩

instance : Floatless (ValidatedString valid) := ⟨fun _ => rfl⟩

def validNetworkId (value : String) : Bool :=
  let digits := match value.toList with
    | '-' :: rest => rest
    | chars => chars
  !digits.isEmpty && digits.all Char.isDigit

def validDecimal (value : String) : Bool :=
  !value.toList.isEmpty && value.toList.all Char.isDigit

/-- Hexadecimal groups of 8, 4, 4, 4 and 12 digits. -/
def validTraceId (value : String) : Bool :=
  let parts := value.toList.splitOn '-'
  parts.map List.length == [8, 4, 4, 4, 12] && parts.all (·.all fun c => (hexDigit c).isSome)

abbrev NetworkId := ValidatedString validNetworkId
abbrev DecimalString := ValidatedString validDecimal
abbrev TraceId := ValidatedString validTraceId

end Texts

section Identifiers

/-- A session's public key, spelt as 64 lowercase digits. -/
structure ClientId where
  bytes : Vector UInt8 32
  deriving DecidableEq

def ClientId.toText (id : ClientId) : String :=
  String.ofList (hexEncode id.bytes.toList)

/-- A 32-byte array of exactly 64 lowercase digits. -/
def lowerHexKey (value : String) : Option (Vector UInt8 32) :=
  if value.toList.length = 64 ∧ value.toList.all isLowerHex then hexVector 32 value.toList else none

def ClientId.fromStr (value : String) : Option ClientId :=
  (lowerHexKey value).map ClientId.mk

theorem lowerHexKey_hexEncode (bytes : Vector UInt8 32) :
    lowerHexKey (String.ofList (hexEncode bytes.toList)) = some bytes := by
  rw [lowerHexKey, String.toList_ofList, if_pos, hexVector_hexEncode]
  refine ⟨by simp, List.all_eq_true.mpr fun c member => ?_⟩
  exact isLowerHex_of_mem_hexEncode member

theorem ClientId.fromStr_toText (id : ClientId) : ClientId.fromStr id.toText = some id := by
  rw [fromStr, toText, lowerHexKey_hexEncode]
  rfl

instance : Wire ClientId :=
  ⟨.text ClientId.fromStr ClientId.toText ClientId.fromStr_toText, fun _ => rfl⟩

instance : Floatless ClientId := ⟨fun _ => rfl⟩

end Identifiers

section RawAddresses

/-- The integer denoted by decimal digits behind an optional sign. -/
def signedValue : List Char → Int
  | '-' :: digits => -(decimalValue digits : Int)
  | digits => decimalValue digits

/-- An integer in its only spelling. -/
def parseCanonicalInt (text : String) : Option Int :=
  if toString (signedValue text.toList) = text then some (signedValue text.toList) else none

/-- The workchain of an address: a 32-bit integer in its only spelling. -/
def parseWorkchain (text : String) : Option Int32 :=
  (parseCanonicalInt text).bind fun value =>
    if (Int32.ofInt value).toInt = value then some (Int32.ofInt value) else none

def RawAccountAddress.toText (address : RawAccountAddress) : String :=
  String.ofList ((toString address.workchain.toInt).toList ++
    ':' :: hexEncode address.hash.toList)

def RawAccountAddress.fromStr (value : String) : Option RawAccountAddress :=
  (splitOnce ':' value.toList).bind fun (workchain, hash) =>
    if hash.length = 64 ∧ hash.all (fun c => (hexDigit c).isSome) then
      (parseWorkchain (String.ofList workchain)).bind fun workchain =>
        (hexVector 32 hash).map (RawAccountAddress.mk workchain)
    else none

theorem isDigit_of_mem_repr {value : Nat} {c : Char} (member : c ∈ value.repr.toList) :
    c.isDigit = true := by
  rw [Nat.repr_eq_ofList_toDigits, String.toList_ofList] at member
  exact Nat.isDigit_of_mem_toDigits (by decide) (by decide) member

theorem signedValue_toString (value : Int) : signedValue (toString value).toList = value := by
  have natural : ∀ n : Nat, decimalValue n.repr.toList = n := decimalValue_toString
  rw [Int.toString_eq_repr, Int.repr_eq_if]
  by_cases nonnegative : 0 ≤ value
  · rw [if_pos nonnegative]
    unfold signedValue
    split
    · next digits sign =>
        have minus : '-' ∈ value.toNat.repr.toList := by rw [sign]; exact List.mem_cons_self
        exact absurd (isDigit_of_mem_repr minus) (by decide)
    · rw [natural, Int.toNat_of_nonneg nonnegative]
  · have digits : ("-" ++ (-value).toNat.repr).toList = '-' :: (-value).toNat.repr.toList :=
      String.toList_append
    rw [if_neg nonnegative, digits, signedValue, natural]
    omega

theorem parseCanonicalInt_toString (value : Int) :
    parseCanonicalInt (toString value) = some value := by
  rw [parseCanonicalInt, signedValue_toString, if_pos rfl]

theorem parseWorkchain_toString (workchain : Int32) :
    parseWorkchain (toString workchain.toInt) = some workchain := by
  rw [parseWorkchain, parseCanonicalInt_toString, Option.bind_some, Int32.ofInt_toInt, if_pos rfl]

theorem colon_not_mem_toString (value : Int) : ∀ c ∈ (toString value).toList, c ≠ ':' := by
  have digits : ∀ n : Nat, ∀ c ∈ n.repr.toList, c ≠ ':' := by
    rintro n c member rfl
    exact absurd (isDigit_of_mem_repr member) (by decide)
  intro c member
  rw [Int.toString_eq_repr, Int.repr_eq_if] at member
  split at member
  · exact digits _ c member
  · rw [String.toList_append] at member
    rcases List.mem_append.mp member with sign | digit
    · obtain rfl : c = '-' := List.mem_singleton.mp sign
      decide
    · exact digits _ c digit

theorem isSome_hexDigit_of_isLowerHex {c : Char} (digit : isLowerHex c = true) :
    (hexDigit c).isSome = true := by
  simp only [isLowerHex, Char.isDigit, Bool.or_eq_true, Bool.and_eq_true, decide_eq_true_eq]
    at digit
  unfold hexDigit
  rcases digit with decimal | letter
  · have range : '0' ≤ c ∧ c ≤ '9' := decimal
    rw [if_pos (by simpa using range)]
    rfl
  · split
    · rfl
    · rw [if_pos (by simpa using letter)]
      rfl

theorem RawAccountAddress.fromStr_toText (address : RawAccountAddress) :
    RawAccountAddress.fromStr address.toText = some address := by
  have digits : (hexEncode address.hash.toList).all (fun c => (hexDigit c).isSome) = true :=
    List.all_eq_true.mpr fun c member =>
      isSome_hexDigit_of_isLowerHex (isLowerHex_of_mem_hexEncode member)
  rw [fromStr, toText, String.toList_ofList, splitOnce_append (colon_not_mem_toString _),
    Option.bind_some]
  simp only [String.ofList_toList, parseWorkchain_toString, hexVector_hexEncode, digits]
  simp

theorem toString_of_parseWorkchain {text : String} {workchain : Int32}
    (read : parseWorkchain text = some workchain) : toString workchain.toInt = text := by
  obtain ⟨value, canonical, fits⟩ := Option.bind_eq_some_iff.mp read
  obtain ⟨exact, same⟩ := Option.ite_none_right_eq_some.mp fits
  obtain ⟨spelt, denoted⟩ := Option.ite_none_right_eq_some.mp canonical
  cases same
  cases denoted
  rw [exact, spelt]

theorem not_isUpper_of_mem_toString {value : Int} {c : Char} (member : c ∈ (toString value).toList) :
    c.isUpper = false := by
  have digits : ∀ n : Nat, c ∈ n.repr.toList → c.isUpper = false := by
    intro n written
    have digit := isDigit_of_mem_repr written
    simp only [Char.isDigit, Bool.and_eq_true, decide_eq_true_eq, UInt32.le_iff_toNat_le] at digit
    change decide (c.val ≥ 'A'.val ∧ c.val ≤ 'Z'.val) = false
    simp only [decide_eq_false_iff_not, UInt32.le_iff_toNat_le]
    simp only [Char.reduceVal, UInt32.reduceToNat] at digit ⊢
    omega
  rw [Int.toString_eq_repr, Int.repr_eq_if] at member
  split at member
  · exact digits _ member
  · rw [String.toList_append] at member
    rcases List.mem_append.mp member with sign | digit
    · obtain rfl : c = '-' := List.mem_singleton.mp sign
      decide
    · exact digits _ digit

/-- Among the hexadecimal digits the lowercase ones are those that are no capitals. -/
theorem isLowerHex_iff_of_hexDigit {c : Char} (digit : (hexDigit c).isSome = true) :
    isLowerHex c = true ↔ c.isUpper = false := by
  have range : (48 ≤ c.toNat ∧ c.toNat ≤ 57) ∨ (97 ≤ c.toNat ∧ c.toNat ≤ 102) ∨
      (65 ≤ c.toNat ∧ c.toNat ≤ 70) := by
    by_contra outside
    simp only [not_or, not_and, Nat.not_le] at outside
    unfold hexDigit at digit
    simp only [Char.le_def, UInt32.le_iff_toNat_le, Bool.and_eq_true, decide_eq_true_eq] at digit
    have code : c.val.toNat = c.toNat := rfl
    simp only [code] at digit
    rw [if_neg (by simp; omega), if_neg (by simp; omega), if_neg (by simp; omega)] at digit
    cases digit
  have listed : ∀ code < 128, ((48 ≤ code ∧ code ≤ 57) ∨ (97 ≤ code ∧ code ≤ 102) ∨
      (65 ≤ code ∧ code ≤ 70)) →
        (isLowerHex (Char.ofNat code) = true ↔ (Char.ofNat code).isUpper = false) := by
    decide
  rw [← Char.ofNat_toNat c]
  exact listed _ (by omega) range

/-- An address is spelt as it was read exactly when it was read from a text without capitals. -/
theorem RawAccountAddress.toText_of_fromStr {value : String} {address : RawAccountAddress}
    (read : RawAccountAddress.fromStr value = some address) :
    address.toText = value ↔ ∀ c ∈ value.toList, c.isUpper = false := by
  obtain ⟨⟨workchain, hash⟩, cut, rest⟩ := Option.bind_eq_some_iff.mp read
  obtain ⟨⟨-, digits⟩, rest⟩ := Option.ite_none_right_eq_some.mp rest
  obtain ⟨number, parsed, rest⟩ := Option.bind_eq_some_iff.mp rest
  obtain ⟨bytes, decoded, rfl⟩ := Option.map_eq_some_iff.mp rest
  have whole := eq_append_of_splitOnce cut
  have spelt : (toString number.toInt).toList = workchain := by
    rw [toString_of_parseWorkchain parsed, String.toList_ofList]
  have stored : hexDecode hash = some bytes.toList := by
    obtain ⟨found, read, sized⟩ := Option.bind_eq_some_iff.mp decoded
    obtain ⟨_, same⟩ := Option.dite_none_right_eq_some.mp sized
    rw [read, ← Option.some.inj same]
    simp [Vector.toList]
  have split : (RawAccountAddress.mk number bytes).toText = value ↔ hexEncode bytes.toList = hash := by
    rw [← String.toList_inj, toText, String.toList_ofList, whole, spelt]
    simp
  have lower : (∀ c ∈ hash, isLowerHex c = true) ↔ ∀ c ∈ hash, c.isUpper = false :=
    forall₂_congr fun c member =>
      isLowerHex_iff_of_hexDigit (List.all_eq_true.mp digits c member)
  rw [split, hexEncode_of_hexDecode stored, lower, whole]
  constructor
  · intro plain c member
    rcases List.mem_append.mp member with front | back
    · exact not_isUpper_of_mem_toString (spelt ▸ front)
    · rcases List.mem_cons.mp back with rfl | back
      · decide
      · exact plain c back
  · intro plain c member
    exact plain c (List.mem_append_right _ (List.mem_cons_of_mem _ member))

instance : Wire RawAccountAddress :=
  ⟨.text RawAccountAddress.fromStr RawAccountAddress.toText RawAccountAddress.fromStr_toText, fun _ => rfl⟩

instance : Floatless RawAccountAddress := ⟨fun _ => rfl⟩

end RawAddresses

section Checked

variable (lib : Libraries)

abbrev Base64Value := ValidatedString fun value => (lib.decodeBase64 value).isSome

/-- An absolute HTTPS URL with a host, kept as it was written. -/
abbrev HttpsUrl := ValidatedString fun value =>
  (lib.parseUrl value).any fun url => url.scheme == "https" && url.hasHost

/-- A base64 text of one complete cell. -/
abbrev CellBoc := ValidatedString fun value => (lib.decodeBase64 value).any lib.singleRootBoc

abbrev FriendlyAddress := ValidatedString fun value => (lib.friendlyParts value).isSome

/-- An address in raw or user-friendly form. -/
inductive AccountAddress where
  | raw (address : RawAccountAddress)
  | friendly (address : FriendlyAddress lib)
  deriving DecidableEq

variable {lib}

def CellBoc.bytes (boc : CellBoc lib) : List UInt8 :=
  (lib.decodeBase64 boc.text).getD []

def FriendlyAddress.parts (address : FriendlyAddress lib) : FriendlyParts :=
  (lib.friendlyParts address.text).get address.accepted

def AccountAddress.rawAddress : AccountAddress lib → RawAccountAddress
  | .raw address => address
  | .friendly address => address.parts.raw

def AccountAddress.toText : AccountAddress lib → String
  | .raw address => address.toText
  | .friendly address => address.text

def AccountAddress.tryFrom (value : String) : Option (AccountAddress lib) :=
  match RawAccountAddress.fromStr value with
  | some address => some (.raw address)
  | none => (ValidatedString.tryFrom value).map .friendly

/-- A user-friendly address is written in the URL-safe alphabet. -/
theorem FriendlyAddress.chars (address : FriendlyAddress lib) :
    ∀ c ∈ address.text.toList, c.isAlphanum ∨ c = '-' ∨ c = '_' := by
  obtain ⟨parts, found⟩ := Option.isSome_iff_exists.mp address.accepted
  unfold LibraryFunctions.friendlyParts at found
  split at found
  · cases found
  · obtain ⟨bytes, -, checked⟩ := Option.bind_eq_some_iff.mp found
    split at checked
    · cases checked
    · next canonical =>
        have written : lib.base64Encode true false bytes = address.text := by
          by_contra other
          exact canonical (Or.inr other)
        rw [← written]
        exact lib.base64_urlSafe_chars bytes

theorem FriendlyAddress.fromStr_text (address : FriendlyAddress lib) :
    RawAccountAddress.fromStr address.text = none := by
  have free : ∀ c ∈ address.text.toList, c ≠ ':' := by
    rintro c member rfl
    exact absurd (address.chars _ member) (by decide)
  rw [RawAccountAddress.fromStr, splitOnce_eq_none_iff.mpr free]
  rfl

theorem AccountAddress.tryFrom_toText (address : AccountAddress lib) :
    AccountAddress.tryFrom address.toText = some address := by
  cases address with
  | raw address => rw [toText, tryFrom, RawAccountAddress.fromStr_toText]
  | friendly address =>
    rw [toText, tryFrom, address.fromStr_text]
    change (ValidatedString.tryFrom address.text).map _ = _
    rw [ValidatedString.tryFrom_text]
    rfl

instance : Wire (AccountAddress lib) :=
  ⟨.text AccountAddress.tryFrom AccountAddress.toText AccountAddress.tryFrom_toText, fun _ => rfl⟩

instance : Floatless (AccountAddress lib) := ⟨fun _ => rfl⟩

end Checked

section Sequences

/-- A list with at least one element. -/
structure NonEmptyVec (α : Type) where
  items : List α
  nonempty : items ≠ []
  deriving DecidableEq

variable {α : Type}

def NonEmptyVec.tryFrom (items : List α) : Except String (NonEmptyVec α) :=
  if nonempty : items ≠ [] then .ok ⟨items, nonempty⟩
  else .error "array must contain at least one element"

def NonEmptyVec.map {β : Type} (change : α → β) (values : NonEmptyVec α) : NonEmptyVec β :=
  ⟨values.items.map change, by simpa using values.nonempty⟩

def NonEmptyVec.codec (codec : Codec α) : Codec (NonEmptyVec α) :=
  codec.array.refine NonEmptyVec.tryFrom NonEmptyVec.items
    (fun change => NonEmptyVec.map (codec.refloat change))
    fun change values => dif_pos (values.map (codec.refloat change)).nonempty

theorem NonEmptyVec.refloat_codec {codec : Codec α} {change : String → String}
    (same : codec.refloat change = id) : (NonEmptyVec.codec codec).refloat change = id := by
  funext values
  change NonEmptyVec.map (codec.refloat change) values = values
  simp only [same, NonEmptyVec.map, List.map_id]

/-- A 64-bit number. -/
def Codec.u64 : Codec UInt64 where
  encode value := .num (.posInt value.toNat value.toNat_lt)
  decode json := json.unsigned.map UInt64.ofNat
  refloat _ := id
  decode_encode change value := by
    rw [Json.mapFloats_posInt, Json.unsigned]
    exact congrArg Except.ok UInt64.ofNat_toNat

instance : Wire UInt64 := ⟨.u64, fun _ => rfl⟩

instance : Floatless UInt64 := ⟨fun _ => rfl⟩

end Sequences

section BridgeUrls

/-- A bridge reached over HTTPS, or over HTTP on the same machine, without query. -/
def bridgeUrlAllowed (url : Url) : Bool :=
  ((url.scheme == "https" && url.hasHost) || (url.scheme == "http" && url.loopback)) &&
    url.query.isNone && url.fragment.isNone

variable (lib : Libraries)

/-- The base URL of a bridge. -/
structure HttpBridgeUrl where
  url : Url
  parsed : lib.parseUrl url.text = some url
  allowed : bridgeUrlAllowed url = true
  deriving DecidableEq

variable {lib}

def HttpBridgeUrl.tryFrom (value : String) : Option (HttpBridgeUrl lib) :=
  match found : lib.parseUrl value with
  | some url =>
    if allowed : bridgeUrlAllowed url = true then some ⟨url, lib.parseUrl_text found, allowed⟩
    else none
  | none => none

theorem HttpBridgeUrl.tryFrom_text (bridge : HttpBridgeUrl lib) :
    HttpBridgeUrl.tryFrom bridge.url.text = some bridge := by
  unfold tryFrom
  split
  · next url found =>
      obtain rfl : bridge.url = url := Option.some.inj (bridge.parsed.symm.trans found)
      exact dif_pos bridge.allowed
  · next absent =>
      rw [bridge.parsed] at absent
      cases absent

instance : Wire (HttpBridgeUrl lib) :=
  ⟨.text HttpBridgeUrl.tryFrom (·.url.text) HttpBridgeUrl.tryFrom_text, fun _ => rfl⟩

instance : Floatless (HttpBridgeUrl lib) := ⟨fun _ => rfl⟩

/-- The base path with one more segment. -/
def HttpBridgeUrl.endpoint (bridge : HttpBridgeUrl lib) (suffix : String) : Url :=
  let path := (bridge.url.path.toList.reverse.dropWhile (· == '/')).reverse
  lib.setPath bridge.url (String.ofList path ++ "/" ++ suffix)

/-- How a bridge sends its heartbeats. -/
inductive HeartbeatMode where
  | legacy | message
  deriving DecidableEq

def HeartbeatMode.asStr : HeartbeatMode → String
  | .legacy => "legacy"
  | .message => "message"

def HttpBridgeUrl.eventsEndpoint (bridge : HttpBridgeUrl lib) (clientId : ClientId)
    (lastEventId : Option String) (traceId : Option TraceId) (heartbeat : HeartbeatMode) : Url :=
  lib.appendPairs (bridge.endpoint "events")
    ([("client_id", clientId.toText)] ++
      lastEventId.toList.map (fun id => ("last_event_id", id)) ++
      traceId.toList.map (fun id => ("trace_id", id.text)) ++ [("heartbeat", heartbeat.asStr)])

def HttpBridgeUrl.messageEndpoint (bridge : HttpBridgeUrl lib) (sender recipient : ClientId)
    (ttl : UInt32) (topic : Option String) (traceId : Option TraceId) : Url :=
  lib.appendPairs (bridge.endpoint "message")
    ([("client_id", sender.toText), ("to", recipient.toText), ("ttl", toString ttl.toNat)] ++
      topic.toList.map (fun topic => ("topic", topic)) ++
      traceId.toList.map (fun id => ("trace_id", id.text)))

end BridgeUrls

end WalletEngine
