import WalletEngine.TonConnect.Embedded

/-! # The connect handshake

A link asks for items about the account. The wallet replies with a connect event, which must
fit the request item by item before it is sent. -/

namespace WalletEngine

section Request

/-- An item of a later protocol version: its fields are kept without interpretation. -/
structure UnsupportedItem where
  name : String
  fields : List (String × Json)
  named : name ≠ ""
  unknown : name ∉ ["ton_addr", "ton_proof"]
  /-- The fields are those of a value in memory and hold no name of their own. -/
  settled : (Json.obj fields).settle = .obj fields
  unnamed : ∀ member ∈ fields, member.1 ≠ "name"

inductive ConnectItem where
  | tonAddr (network : Option NetworkId)
  | tonProof (payload : String)
  | unsupported (item : UnsupportedItem)

def ConnectItem.name : ConnectItem → String
  | .tonAddr _ => "ton_addr"
  | .tonProof _ => "ton_proof"
  | .unsupported item => item.name

def tonAddressItemWire : Fields (Option NetworkId) :=
  Fields.maybe "network"

def tonProofItemWire : Fields String :=
  Fields.member "payload"

def ConnectItem.fields : ConnectItem → List (String × Json)
  | .tonAddr network => tonAddressItemWire.encode network
  | .tonProof payload => tonProofItemWire.encode payload
  | .unsupported item => item.fields

def ConnectItem.encode (item : ConnectItem) : Json :=
  .obj (("name", .str item.name) :: item.fields)

/-- The name of an item is taken out of the object; the rest are its fields. -/
def ConnectItem.fromObject (object : List (String × Json))
    (settled : (Json.obj object).settle = .obj object) : Except String ConnectItem :=
  match (Json.lookup object "name").bind Json.asStr with
  | none => .error "connect item name must be a non-empty string"
  | some name =>
    let fields := object.filter (·.1 != "name")
    if named : name = "" then .error "connect item name must be a non-empty string"
    else if address : name = "ton_addr" then
      (tonAddressItemWire.fromValue (.obj fields)).map .tonAddr
    else if proof : name = "ton_proof" then
      (tonProofItemWire.fromValue (.obj fields)).map .tonProof
    else
      .ok (.unsupported
        { name, fields, named
          unknown := by simp [address, proof]
          settled := Json.settle_filter settled _
          unnamed := fun member listed => by simpa using (List.mem_filter.mp listed).2 })

def ConnectItem.decode : Json → Except String ConnectItem
  | .obj members =>
    fromObject (Json.keepLast (Json.settleMembers members)) (by
      have settled := Json.settle_settle (.obj members)
      rwa [Json.settle] at settled)
  | _ => .error "connect item must be an object"

/-- Respelling the numbers in the fields of an item. -/
def UnsupportedItem.refloat (change : String → String) (item : UnsupportedItem) :
    UnsupportedItem where
  name := item.name
  fields := item.fields.map fun member => (member.1, member.2.mapFloats change)
  named := item.named
  unknown := item.unknown
  settled := by
    have settled := Json.settle_mapFloats change (.obj item.fields)
    rwa [item.settled, Json.mapFloats_obj] at settled
  unnamed member listed := by
    obtain ⟨original, found, rfl⟩ := List.mem_map.mp listed
    exact item.unnamed original found

def ConnectItem.refloat (change : String → String) : ConnectItem → ConnectItem
  | .unsupported item => .unsupported (item.refloat change)
  | item => item

theorem ConnectItem.refloat_id (item : ConnectItem) : item.refloat id = item := by
  cases item with
  | unsupported item =>
    have same : item.refloat id = item := by
      simp only [UnsupportedItem.refloat, Json.mapFloats_eq_self, Prod.mk.eta, List.map_id']
    rw [refloat, same]
  | _ => rfl

theorem ConnectItem.fields_unnamed (item : ConnectItem) :
    ∀ member ∈ item.fields, member.1 ≠ "name" := by
  intro member listed
  cases item with
  | tonAddr network =>
    rw [List.mem_singleton.mp (tonAddressItemWire.named network member listed)]
    decide
  | tonProof payload =>
    rw [List.mem_singleton.mp (tonProofItemWire.named payload member listed)]
    decide
  | unsupported item => exact item.unnamed member listed

theorem ConnectItem.settle_fields (item : ConnectItem) :
    (Json.obj item.fields).settle = .obj item.fields := by
  cases item with
  | tonAddr network =>
    refine Json.settle_obj_iff.mpr ⟨tonAddressItemWire.distinct network, fun member listed => ?_⟩
    obtain ⟨present, -, rfl⟩ := List.mem_map.mp listed
    exact Json.settle_str _
  | tonProof payload =>
    refine Json.settle_obj_iff.mpr ⟨tonProofItemWire.distinct payload, fun member listed => ?_⟩
    rw [List.mem_singleton.mp listed]
    exact Json.settle_str _
  | unsupported item => exact item.settled

/-- What an item is written as, with its numbers respelt. -/
theorem ConnectItem.mapFloats_encode (change : String → String) (item : ConnectItem) :
    item.encode.mapFloats change = (item.refloat change).encode := by
  rw [encode, Json.mapFloats_obj, List.map_cons, Json.mapFloats_str, encode]
  cases item with
  | tonAddr network => cases network <;> rfl
  | tonProof payload => rfl
  | unsupported item => rfl

theorem ConnectItem.settle_encode (item : ConnectItem) : item.encode.settle = item.encode := by
  obtain ⟨distinct, values⟩ := Json.settle_obj_iff.mp item.settle_fields
  refine Json.settle_obj_iff.mpr ⟨List.nodup_cons.mpr ⟨?_, distinct⟩, ?_⟩
  · intro repeated
    obtain ⟨member, listed, same⟩ := List.mem_map.mp repeated
    exact item.fields_unnamed member listed same
  · exact List.forall_mem_cons.mpr ⟨Json.settle_str _, values⟩

theorem ConnectItem.fromObject_encode (item : ConnectItem)
    (settled : (Json.obj (("name", .str item.name) :: item.fields)).settle =
      .obj (("name", .str item.name) :: item.fields)) :
    fromObject (("name", .str item.name) :: item.fields) settled = .ok item := by
  have found : Json.lookup (("name", .str item.name) :: item.fields) "name" =
      some (.str item.name) := by
    rw [← List.singleton_append, Json.lookup_append,
      Json.lookup_eq_none_iff.mpr fun _ listed => item.fields_unnamed _ listed rfl,
      Option.none_or, Json.lookup_singleton]
  have rest : (("name", Json.str item.name) :: item.fields).filter (·.1 != "name") =
      item.fields := by
    rw [List.filter_cons_of_neg (by simp), List.filter_eq_self]
    intro member listed
    simpa using item.fields_unnamed member listed
  unfold fromObject
  simp only [found, rest, Option.bind_some, Json.asStr]
  cases item with
  | tonAddr network =>
    have read := tonAddressItemWire.fromValue_encode id network
    rw [Json.mapFloats_eq_self, tonAddressItemWire, Fields.refloat_maybe] at read
    exact except_map_eq_ok.mpr ⟨network, read, rfl⟩
  | tonProof payload =>
    have read := tonProofItemWire.fromValue_encode id payload
    rw [Json.mapFloats_eq_self] at read
    exact except_map_eq_ok.mpr ⟨payload, read, rfl⟩
  | unsupported item =>
    obtain ⟨address, proof⟩ : item.name ≠ "ton_addr" ∧ item.name ≠ "ton_proof" := by
      simpa using item.unknown
    exact (dif_neg item.named).trans ((dif_neg address).trans (dif_neg proof))

theorem ConnectItem.decode_encode (change : String → String) (item : ConnectItem) :
    decode (item.encode.mapFloats change) = .ok (item.refloat change) := by
  have settled := (item.refloat change).settle_encode
  rw [mapFloats_encode]
  rw [encode, Json.settle, Json.obj.injEq] at settled
  rw [encode, decode]
  simp only [settled]
  exact fromObject_encode _ _

instance : Wire ConnectItem where
  codec :=
    { encode := ConnectItem.encode
      decode := ConnectItem.decode
      refloat := ConnectItem.refloat
      decode_encode := ConnectItem.decode_encode }
  present _ := rfl

variable (lib : Libraries)

/-- What a link asks for. -/
structure ConnectRequest where
  manifestUrl : HttpsUrl lib
  items : NonEmptyVec ConnectItem

variable {lib}

def ConnectRequest.refloat (change : String → String) (request : ConnectRequest lib) :
    ConnectRequest lib :=
  { request with items := request.items.map (ConnectItem.refloat change) }

theorem ConnectRequest.refloat_id (request : ConnectRequest lib) : request.refloat id = request := by
  have items : request.items.map (ConnectItem.refloat id) = request.items := by
    simp only [NonEmptyVec.map, List.map_id'' ConnectItem.refloat_id]
  rw [refloat, items]

instance : Wire (ConnectRequest lib) where
  codec := (((Fields.member "manifestUrl").both
    (Fields.required "items" (NonEmptyVec.codec Wire.codec)) (of_decide_eq_true rfl)).record
      (fun parts => ⟨parts.1, parts.2⟩) (fun request => (request.manifestUrl, request.items))
      ConnectRequest.refloat
      fun change request => by
        rw [Fields.refloat_both, Fields.refloat_member]
        rfl).object
  present _ := rfl

section Depth

end Depth

end Request

section Device

inductive DevicePlatform where
  | iphone | ipad | android | windows | mac | linux | browser
  deriving DecidableEq

def DevicePlatform.toText : DevicePlatform → String
  | .iphone => "iphone"
  | .ipad => "ipad"
  | .android => "android"
  | .windows => "windows"
  | .mac => "mac"
  | .linux => "linux"
  | .browser => "browser"

inductive StructuredItemType where
  | ton | jetton | nft
  deriving DecidableEq

def StructuredItemType.toText : StructuredItemType → String
  | .ton => "ton"
  | .jetton => "jetton"
  | .nft => "nft"

inductive SignDataType where
  | text | binary | cell
  deriving DecidableEq

def SignDataType.toText : SignDataType → String
  | .text => "text"
  | .binary => "binary"
  | .cell => "cell"

/-- The limits of a method that takes messages. -/
structure MessageFeature where
  maxMessages : UInt32
  extraCurrencySupported : Option Bool
  itemTypes : Option (List StructuredItemType)
  positive : maxMessages ≠ 0
  distinct : ∀ types ∈ itemTypes, types ≠ [] ∧ types.Nodup
  deriving DecidableEq

/-- The kinds of data that can be signed. -/
structure SignDataFeature where
  types : List SignDataType
  nonempty : types ≠ []
  distinct : types.Nodup
  deriving DecidableEq

inductive Feature where
  | legacySendTransaction
  | sendTransaction (limits : MessageFeature)
  | signData (kinds : SignDataFeature)
  | signMessage (limits : MessageFeature)
  | embeddedRequest
  deriving DecidableEq

def u32Json (value : UInt32) : Json :=
  .num (.posInt value.toNat (by have := value.toNat_lt; omega))

def MessageFeature.toJson (name : String) (feature : MessageFeature) : Json :=
  .obj ([("name", .str name), ("maxMessages", u32Json feature.maxMessages)] ++
    (feature.extraCurrencySupported.toList.map fun supported =>
      ("extraCurrencySupported", .bool supported)) ++
    feature.itemTypes.toList.map fun types =>
      ("itemTypes", .arr (types.map fun kind => .str kind.toText)))

def Feature.toJson : Feature → Json
  | .legacySendTransaction => .str "SendTransaction"
  | .sendTransaction limits => limits.toJson "SendTransaction"
  | .signData kinds => .obj [("name", .str "SignData"),
      ("types", .arr (kinds.types.map fun kind => .str kind.toText))]
  | .signMessage limits => limits.toJson "SignMessage"
  | .embeddedRequest => .obj [("name", .str "EmbeddedRequest")]

/-- The wallet's description of itself. -/
structure DeviceInfo where
  platform : DevicePlatform
  appName : String
  appVersion : String
  maxProtocolVersion : UInt32
  features : List Feature
  deriving DecidableEq

inductive DeviceInfoValidationError where
  | emptyIdentity | unsupportedProtocolVersion | duplicateFeature
  deriving DecidableEq

def protocolVersion : UInt32 := 2

/-- No feature is listed twice; the two forms of sending transactions may both be. -/
def validateFeatures (legacySendTransaction detailedSendTransaction : Bool) (names : List String) :
    List Feature → Except DeviceInfoValidationError Unit
  | [] => .ok ()
  | feature :: features =>
    let named (name : String) :=
      if names.contains name then .error .duplicateFeature
      else validateFeatures legacySendTransaction detailedSendTransaction (names ++ [name])
        features
    match feature with
    | .legacySendTransaction =>
      if legacySendTransaction then .error .duplicateFeature
      else validateFeatures true detailedSendTransaction names features
    | .sendTransaction _ =>
      if detailedSendTransaction then .error .duplicateFeature
      else validateFeatures legacySendTransaction true names features
    | .signData _ => named "SignData"
    | .signMessage _ => named "SignMessage"
    | .embeddedRequest => named "EmbeddedRequest"

def DeviceInfo.validate (device : DeviceInfo) : Except DeviceInfoValidationError Unit :=
  if device.appName = "" ∨ device.appVersion = "" then .error .emptyIdentity
  else if device.maxProtocolVersion < protocolVersion then .error .unsupportedProtocolVersion
  else validateFeatures false false [] device.features

def DeviceInfo.new (platform : DevicePlatform) (appName appVersion : String)
    (maxProtocolVersion : UInt32) (features : List Feature) :
    Except DeviceInfoValidationError DeviceInfo := do
  let value : DeviceInfo := ⟨platform, appName, appVersion, maxProtocolVersion, features⟩
  value.validate
  return value

def DeviceInfo.toJson (device : DeviceInfo) : Json :=
  .obj [("platform", .str device.platform.toText), ("appName", .str device.appName),
    ("appVersion", .str device.appVersion),
    ("maxProtocolVersion", u32Json device.maxProtocolVersion),
    ("features", .arr (device.features.map Feature.toJson))]

end Device

section Event

variable (lib : Libraries)

/-- The initial state of a wallet contract in canonical base64. -/
abbrev WalletStateInit := ValidatedString lib.walletStateInit

/-- The connected account. -/
structure TonAddressItemReply where
  address : RawAccountAddress
  network : NetworkId
  walletStateInit : WalletStateInit lib
  publicKey : Vector UInt8 32
  deriving DecidableEq

/-- The domain of the dApp; its length is sent with it. -/
structure TonProofDomain where
  value : String
  measured : (utf8 value).length < 2 ^ 32
  deriving DecidableEq

def TonProofDomain.new (value : String) : Option TonProofDomain :=
  if measured : (utf8 value).length < 2 ^ 32 then some ⟨value, measured⟩ else none

structure TonProof where
  timestamp : UInt64
  domain : TonProofDomain
  payload : String
  signature : Vector UInt8 64
  deriving DecidableEq

inductive ConnectItemErrorCode where
  | unknown | methodNotSupported
  deriving DecidableEq

def ConnectItemErrorCode.number : ConnectItemErrorCode → UInt32
  | .unknown => 0
  | .methodNotSupported => 400

/-- The reply to one item of the request. -/
inductive ConnectItemReply where
  | tonAddress (account : TonAddressItemReply lib)
  | tonProof (proof : TonProof)
  | error (name : String) (code : ConnectItemErrorCode) (message : Option String)
  deriving DecidableEq

inductive ConnectEventErrorCode where
  | unknown | badRequest | manifestNotFound | manifestContent | unknownApp | userDeclined
  | methodNotSupported
  deriving DecidableEq

def ConnectEventErrorCode.number : ConnectEventErrorCode → UInt32
  | .unknown => 0
  | .badRequest => 1
  | .manifestNotFound => 2
  | .manifestContent => 3
  | .unknownApp => 100
  | .userDeclined => 300
  | .methodNotSupported => 400

/-- An event of the wallet with its identifier. -/
inductive ConnectEvent where
  | connect (id : UInt64) (items : List (ConnectItemReply lib)) (device : DeviceInfo)
      (response : Option EmbeddedResponse)
  | connectError (id : UInt64) (code : ConnectEventErrorCode) (message : String)
  | disconnect (id : UInt64)

variable {lib}

def ConnectItemReply.name : ConnectItemReply lib → String
  | .tonAddress _ => "ton_addr"
  | .tonProof _ => "ton_proof"
  | .error name _ _ => name

/-- The reply to an item that the wallet does not know. -/
def ConnectItemReply.unsupported (item : ConnectItem) (message : Option String) :
    ConnectItemReply lib :=
  .error item.name .methodNotSupported message

def ConnectItemReply.account : ConnectItemReply lib → Option (TonAddressItemReply lib)
  | .tonAddress account => some account
  | _ => none

def ConnectItemReply.proof : ConnectItemReply lib → Option TonProof
  | .tonProof proof => some proof
  | _ => none

variable (lib) in
def TonProof.toJson (proof : TonProof) : Json :=
  .obj [("timestamp", (Wire.codec : Codec UInt64).encode proof.timestamp),
    ("domain", .obj [("lengthBytes", .num (.posInt (utf8 proof.domain.value).length
        (proof.domain.measured.trans (by decide)))), ("value", .str proof.domain.value)]),
    ("payload", .str proof.payload),
    ("signature", .str (lib.base64Encode false true proof.signature.toList))]

def ConnectItemReply.toJson : ConnectItemReply lib → Json
  | .tonAddress account =>
    .obj [("name", .str "ton_addr"), ("address", .str account.address.toText),
      ("network", .str account.network.text),
      ("walletStateInit", .str account.walletStateInit.text),
      ("publicKey", .str (.ofList (hexEncode account.publicKey.toList)))]
  | .tonProof proof => .obj [("name", .str "ton_proof"), ("proof", proof.toJson lib)]
  | .error name code message =>
    .obj [("name", .str name), ("error", .obj (("code", u32Json code.number) ::
      message.toList.map fun message => ("message", .str message)))]

def ConnectEvent.toJson : ConnectEvent lib → Json
  | .connect id items device response =>
    .obj ([("event", .str "connect"), ("id", (Wire.codec : Codec UInt64).encode id),
      ("payload", .obj [("items", .arr (items.map ConnectItemReply.toJson)),
        ("device", device.toJson)])] ++
      response.toList.map fun response => ("response", response.toJson))
  | .connectError id code message =>
    .obj [("event", .str "connect_error"), ("id", (Wire.codec : Codec UInt64).encode id),
      ("payload", .obj [("code", u32Json code.number), ("message", .str message)])]
  | .disconnect id =>
    .obj [("event", .str "disconnect"), ("id", (Wire.codec : Codec UInt64).encode id),
      ("payload", .obj [])]

inductive ConnectValidationError where
  | notAConnectResponse | invalidTonAddressRequest | itemReplyMismatch | missingTonAddressReply
  | multipleTonAddressReplies | networkMismatch | proofPayloadMismatch
  | unexpectedEmbeddedResponse | missingEmbeddedResponse
  | invalidDeviceInfo (error : DeviceInfoValidationError)
  | invalidEmbeddedResponse (error : ResponseValidationError)
  deriving DecidableEq

def ConnectItem.isTonAddr : ConnectItem → Bool
  | .tonAddr _ => true
  | _ => false

def ConnectItem.requestedNetwork : ConnectItem → Option NetworkId
  | .tonAddr network => network
  | _ => none

/-- The item asks for a proof of the payload. -/
def ConnectItem.asksProof (payload : String) : ConnectItem → Bool
  | .tonProof requested => requested == payload
  | _ => false

/-- The replies answer the items, in any order. -/
def ConnectItem.answered (requested : List ConnectItem) (replies : List (ConnectItemReply lib)) :
    Bool :=
  requested.length == replies.length && requested.all fun item =>
    requested.countP (·.name == item.name) == replies.countP (·.name == item.name)

/-- An embedded request is answered exactly when the device supports such requests. -/
def validateEmbedded (embeddedRequest : Option (EmbeddedRequest lib))
    (response : Option EmbeddedResponse) (supportsEmbedded : Bool) :
    Except ConnectValidationError Unit :=
  match embeddedRequest, response, supportsEmbedded with
  | none, none, _ => .ok ()
  | some _, none, false => .ok ()
  | none, some _, _ => .error .unexpectedEmbeddedResponse
  | some _, some _, false => .error .unexpectedEmbeddedResponse
  | some _, none, true => .error .missingEmbeddedResponse
  | some request, some response, true =>
    ((response.validateFor request).mapError .invalidEmbeddedResponse).map fun _ => ()

/-- The event answers the request of a link and its embedded request. -/
def ConnectEvent.validateForConnect (event : ConnectEvent lib) (request : ConnectRequest lib)
    (embeddedRequest : Option (EmbeddedRequest lib)) : Except ConnectValidationError Unit :=
  match event with
  | .connectError _ _ _ => .ok ()
  | .disconnect _ => .error .notAConnectResponse
  | .connect _ items device response => do
      device.validate.mapError .invalidDeviceInfo
      let requested := request.items.items
      if requested.countP ConnectItem.isTonAddr ≠ 1 then throw .invalidTonAddressRequest
      if ¬ ConnectItem.answered requested items then throw .itemReplyMismatch
      match items.filterMap ConnectItemReply.account with
      | [] => throw .missingTonAddressReply
      | _ :: _ :: _ => throw .multipleTonAddressReplies
      | [account] =>
        if (requested.findSome? ConnectItem.requestedNetwork).any (· != account.network) then
          throw .networkMismatch
        if (items.filterMap ConnectItemReply.proof).any fun proof =>
            !requested.any (ConnectItem.asksProof proof.payload) then
          throw .proofPayloadMismatch
        validateEmbedded embeddedRequest response (device.features.contains .embeddedRequest)

end Event

end WalletEngine
