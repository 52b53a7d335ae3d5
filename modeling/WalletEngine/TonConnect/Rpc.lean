import WalletEngine.Domain.Send
import WalletEngine.TonConnect.Values

/-! # TON Connect requests

The requests of a dApp with their payloads, and the responses of the wallet. A payload is a
JSON text inside a parameter; reading it enforces the exact schema of its method. Reasons of
rejected documents are not worded as the JSON reader words them. -/

namespace WalletEngine

section ExtraCurrencies

/-- Amounts of extra currencies by currency identifier. -/
structure ExtraCurrencies where
  entries : List (UInt32 × DecimalString)
  distinct : (entries.map (·.1)).Nodup
  deriving DecidableEq

/-- A 32-bit identifier in its only spelling. -/
def parseCurrencyId (text : String) : Option UInt32 :=
  let value := decimalValue text.toList
  if toString value = text ∧ value < u32Bound then some (UInt32.ofNat value) else none

def currencyEntry (member : String × DecimalString) : Except String (UInt32 × DecimalString) :=
  match parseCurrencyId member.1 with
  | some id => .ok (id, member.2)
  | none => .error "extra-currency id must be an unsigned integer"

def ExtraCurrencies.tryFrom (entries : List (UInt32 × DecimalString)) :
    Except String ExtraCurrencies :=
  if distinct : (entries.map (·.1)).Nodup then .ok ⟨entries, distinct⟩
  else .error "extra-currency id must use canonical decimal form"

def ExtraCurrencies.encode (currencies : ExtraCurrencies) : Json :=
  .obj (currencies.entries.map fun entry => (toString entry.1.toNat, .str entry.2.text))

def ExtraCurrencies.decode : Json → Except String ExtraCurrencies
  | .obj members => do
      let amounts ← members.mapM fun member =>
        ((Wire.codec : Codec DecimalString).decode member.2).map fun amount => (member.1, amount)
      let entries ← (Json.keepLast amounts).mapM currencyEntry
      ExtraCurrencies.tryFrom entries
  | _ => .error "invalid type"

theorem parseCurrencyId_toString (id : UInt32) :
    parseCurrencyId (toString id.toNat) = some id := by
  rw [parseCurrencyId, decimalValue_toString, if_pos ⟨rfl, id.toNat_lt⟩, UInt32.ofNat_toNat]

theorem ExtraCurrencies.decode_encode (change : String → String) (currencies : ExtraCurrencies) :
    ExtraCurrencies.decode (currencies.encode.mapFloats change) = .ok currencies := by
  have distinct : ((currencies.entries.map fun entry => (toString entry.1.toNat, entry.2)).map
      (·.1)).Nodup := by
    rw [List.map_map]
    change (currencies.entries.map ((fun id : UInt32 => toString id.toNat) ∘ Prod.fst)).Nodup
    rw [← List.map_map]
    refine currencies.distinct.map fun first second same => ?_
    have value := congrArg (fun text : String => decimalValue text.toList) same
    simpa only [decimalValue_toString, UInt32.toNat_inj] using value
  have amounts : (currencies.entries.map fun entry => (toString entry.1.toNat,
      (Json.str entry.2.text).mapFloats change)).mapM (fun member =>
        ((Wire.codec : Codec DecimalString).decode member.2).map
          fun amount => (member.1, amount)) =
      .ok (currencies.entries.map fun entry => (toString entry.1.toNat, entry.2)) := by
    refine except_mapM_map_eq_ok fun entry _ => ?_
    have read := (Wire.codec : Codec DecimalString).decode_encode change entry.2
    exact except_map_eq_ok.mpr ⟨entry.2, read, rfl⟩
  have entries : (currencies.entries.map fun entry =>
      (toString entry.1.toNat, entry.2)).mapM currencyEntry = .ok currencies.entries := by
    have read : ∀ entry ∈ currencies.entries,
        currencyEntry (toString entry.1.toNat, entry.2) = .ok (id entry) := by
      intro entry _
      rw [currencyEntry, parseCurrencyId_toString]
      rfl
    rw [except_mapM_map_eq_ok read, List.map_id]
  rw [encode, Json.mapFloats_obj, List.map_map, decode]
  refine except_bind_eq_ok.mpr ⟨_, amounts, except_bind_eq_ok.mpr ⟨_, ?_, dif_pos currencies.distinct⟩⟩
  rw [Json.keepLast_of_nodup distinct]
  exact entries

instance : Wire ExtraCurrencies where
  codec :=
    { encode := ExtraCurrencies.encode
      decode := ExtraCurrencies.decode
      refloat := fun _ => id
      decode_encode := ExtraCurrencies.decode_encode }
  present _ := rfl

instance : Floatless ExtraCurrencies := ⟨fun _ => rfl⟩

end ExtraCurrencies

section Payloads

variable (lib : Libraries)

/-- An outgoing message built by the dApp. -/
structure RawMessage where
  address : FriendlyAddress lib
  amount : DecimalString
  payload : Option (CellBoc lib)
  stateInit : Option (CellBoc lib)
  extraCurrency : Option ExtraCurrencies
  deriving DecidableEq

/-- A transfer that the wallet builds. -/
inductive StructuredItem where
  | ton (address : FriendlyAddress lib) (amount : DecimalString) (payload : Option (CellBoc lib))
      (stateInit : Option (CellBoc lib)) (extraCurrency : Option ExtraCurrencies)
  | jetton (master destination : AccountAddress lib) (amount : DecimalString)
      (attachAmount : Option DecimalString) (queryId : Option String)
      (responseDestination : Option (AccountAddress lib)) (customPayload : Option (CellBoc lib))
      (forwardAmount : Option DecimalString) (forwardPayload : Option (CellBoc lib))
  | nft (nftAddress newOwner : AccountAddress lib)
      (attachAmount : Option DecimalString) (queryId : Option String)
      (responseDestination : Option (AccountAddress lib)) (customPayload : Option (CellBoc lib))
      (forwardAmount : Option DecimalString) (forwardPayload : Option (CellBoc lib))
  deriving DecidableEq

structure RawTransactionPayload where
  validUntil : Option UInt64
  network : Option NetworkId
  sender : Option (AccountAddress lib)
  messages : NonEmptyVec (RawMessage lib)
  deriving DecidableEq

structure StructuredTransactionPayload where
  validUntil : Option UInt64
  network : Option NetworkId
  sender : Option (AccountAddress lib)
  items : NonEmptyVec (StructuredItem lib)
  deriving DecidableEq

/-- Messages of the dApp or transfers for the wallet to build. -/
inductive TransactionPayload where
  | raw (payload : RawTransactionPayload lib)
  | structured (payload : StructuredTransactionPayload lib)
  deriving DecidableEq

inductive SignDataPayload where
  | text (text : String) (network : Option NetworkId) (sender : Option (AccountAddress lib))
  | binary (bytes : Base64Value lib) (network : Option NetworkId)
      (sender : Option (AccountAddress lib))
  | cell (schema : String) (cell : CellBoc lib) (network : Option NetworkId)
      (sender : Option (AccountAddress lib))
  deriving DecidableEq

variable {lib} {α : Type}

/-- How the fields of a record are found in a document. -/
abbrev FieldReader := List String → Json → Except String (String → Option Json)

/-- The fields of a record that has no others. -/
def strictFields (reader : FieldReader) (names : List String) (json : Json) :
    Except String (String → Option Json) := do
  let field ← reader names json
  json.knownFields names
  return field

def readMember [Wire α] (name : String) (field : String → Option Json) : Except String α :=
  (Fields.member name).decode field

def readMaybe [Wire α] (name : String) (field : String → Option Json) :
    Except String (Option α) :=
  (Fields.maybe name).decode field

/-- A nonempty array, each element read on its own. -/
def readNonEmpty (element : Json → Except String α) (name : String)
    (field : String → Option Json) : Except String (NonEmptyVec α) := do
  let json ← Json.required (field name)
  let items ← json.array element
  NonEmptyVec.tryFrom items

def RawMessage.read (json : Json) : Except String (RawMessage lib) := do
  let field ← strictFields Json.valueFields
    ["address", "amount", "payload", "stateInit", "extra_currency"] json
  return {
    address := ← readMember "address" field
    amount := ← readMember "amount" field
    payload := ← readMaybe "payload" field
    stateInit := ← readMaybe "stateInit" field
    extraCurrency := ← readMaybe "extra_currency" field }

def StructuredItem.read (json : Json) : Except String (StructuredItem lib) := do
  let (kind, rest) ← json.taggedValue "type"
  if kind == "ton" then do
    let field ← strictFields Json.valueFields
      ["address", "amount", "payload", "stateInit", "extra_currency"] rest
    return .ton (← readMember "address" field) (← readMember "amount" field)
      (← readMaybe "payload" field) (← readMaybe "stateInit" field)
      (← readMaybe "extra_currency" field)
  else if kind == "jetton" then do
    let field ← strictFields Json.valueFields
      ["master", "destination", "amount", "attachAmount", "queryId", "responseDestination",
        "customPayload", "forwardAmount", "forwardPayload"] rest
    return .jetton (← readMember "master" field) (← readMember "destination" field)
      (← readMember "amount" field) (← readMaybe "attachAmount" field)
      (← readMaybe "queryId" field) (← readMaybe "responseDestination" field)
      (← readMaybe "customPayload" field) (← readMaybe "forwardAmount" field)
      (← readMaybe "forwardPayload" field)
  else if kind == "nft" then do
    let field ← strictFields Json.valueFields
      ["nftAddress", "newOwner", "attachAmount", "queryId", "responseDestination",
        "customPayload", "forwardAmount", "forwardPayload"] rest
    return .nft (← readMember "nftAddress" field) (← readMember "newOwner" field)
      (← readMaybe "attachAmount" field) (← readMaybe "queryId" field)
      (← readMaybe "responseDestination" field)
      (← readMaybe "customPayload" field) (← readMaybe "forwardAmount" field)
      (← readMaybe "forwardPayload" field)
  else .error "unknown variant"

def RawTransactionPayload.read (json : Json) : Except String (RawTransactionPayload lib) := do
  let field ← strictFields Json.valueFields ["valid_until", "network", "from", "messages"] json
  return {
    validUntil := ← readMaybe "valid_until" field
    network := ← readMaybe "network" field
    sender := ← readMaybe "from" field
    messages := ← readNonEmpty RawMessage.read "messages" field }

def StructuredTransactionPayload.read (json : Json) :
    Except String (StructuredTransactionPayload lib) := do
  let field ← strictFields Json.valueFields ["valid_until", "network", "from", "items"] json
  return {
    validUntil := ← readMaybe "valid_until" field
    network := ← readMaybe "network" field
    sender := ← readMaybe "from" field
    items := ← readNonEmpty StructuredItem.read "items" field }

/-- Exactly one of `messages` and `items` is present. -/
def TransactionPayload.read (json : Json) : Except String (TransactionPayload lib) :=
  match json with
  | .obj _ =>
    match (json.get "messages").isSome, (json.get "items").isSome with
    | true, false => (RawTransactionPayload.read json).map .raw
    | false, true => (StructuredTransactionPayload.read json).map .structured
    | _, _ => .error "transaction payload requires exactly one of messages or items"
  | _ => .error "transaction payload must be an object"

/-- The variants of data to sign, from a document or from an untyped value. -/
def SignDataPayload.read (tagged : String → Json → Except String (String × Json))
    (reader : FieldReader) (json : Json) : Except String (SignDataPayload lib) := do
  let (kind, rest) ← tagged "type" json
  if kind == "text" then do
    let field ← strictFields reader ["text", "network", "from"] rest
    return .text (← readMember "text" field) (← readMaybe "network" field)
      (← readMaybe "from" field)
  else if kind == "binary" then do
    let field ← strictFields reader ["bytes", "network", "from"] rest
    return .binary (← readMember "bytes" field) (← readMaybe "network" field)
      (← readMaybe "from" field)
  else if kind == "cell" then do
    let field ← strictFields reader ["schema", "cell", "network", "from"] rest
    return .cell (← readMember "schema" field) (← readMember "cell" field)
      (← readMaybe "network" field) (← readMaybe "from" field)
  else .error "unknown variant"

end Payloads

section Context

variable {lib : Libraries}

inductive RequestContextError where
  | expired | networkMismatch | accountMismatch
  deriving DecidableEq

def RequestContextError.toText : RequestContextError → String
  | .expired => "TON Connect request has expired"
  | .networkMismatch => "TON Connect request network differs from the active network"
  | .accountMismatch => "TON Connect request signer differs from the connected account"

def validateNetworkAndAccount (network : Option NetworkId) (sender : Option (AccountAddress lib))
    (activeNetwork : NetworkId) (activeAccount : RawAccountAddress) :
    Except RequestContextError Unit :=
  if network.any (· != activeNetwork) then .error .networkMismatch
  else if sender.any (·.rawAddress != activeAccount) then .error .accountMismatch
  else .ok ()

def TransactionPayload.validUntil : TransactionPayload lib → Option UInt64
  | .raw payload => payload.validUntil
  | .structured payload => payload.validUntil

def TransactionPayload.network : TransactionPayload lib → Option NetworkId
  | .raw payload => payload.network
  | .structured payload => payload.network

def TransactionPayload.sender : TransactionPayload lib → Option (AccountAddress lib)
  | .raw payload => payload.sender
  | .structured payload => payload.sender

/-- The request has not expired and asks for the connected account. -/
def TransactionPayload.validateContext (payload : TransactionPayload lib) (now : UInt64)
    (activeNetwork : NetworkId) (activeAccount : RawAccountAddress) :
    Except RequestContextError Unit :=
  if payload.validUntil.any (now > ·) then .error .expired
  else validateNetworkAndAccount payload.network payload.sender activeNetwork activeAccount

end Context

section Requests

/-- The envelope of a request: a method, JSON texts and the identifier the dApp gave it. -/
structure AppRequest where
  method : String
  params : List String
  id : String
  deriving DecidableEq

instance : Wire AppRequest where
  codec := ((((Fields.member "method").both (Fields.member "params") (by decide)).both
    (Fields.member "id") (by decide)).record
      (fun parts : (String × List String) × String => ⟨parts.1.1, parts.1.2, parts.2⟩)
      (fun request => ((request.method, request.params), request.id)) (fun _ => id)
      fun change request => by simp).object
  present _ := rfl

instance : Floatless AppRequest := ⟨fun _ => rfl⟩

variable (lib : Libraries)

/-- A request with its parameter parsed. -/
inductive KnownAppRequest where
  | sendTransaction (id : String) (payload : TransactionPayload lib)
  | signMessage (id : String) (payload : TransactionPayload lib)
  | signData (id : String) (payload : SignDataPayload lib)
  | disconnect (id : String)
  deriving DecidableEq

inductive RpcError where
  | unsupportedMethod (method : String)
  | invalidParameterCount (method : String) (expected actual : Nat)
  | invalidPayload (reason : String)
  deriving DecidableEq

def RpcError.toText : RpcError → String
  | .unsupportedMethod method => "unsupported TON Connect RPC method: " ++ method
  | .invalidParameterCount method expected actual =>
    "TON Connect RPC method " ++ method ++ " requires " ++ toString expected ++
      " parameter(s), got " ++ toString actual
  | .invalidPayload reason => "invalid TON Connect RPC payload: " ++ reason

variable {lib}

def KnownAppRequest.id : KnownAppRequest lib → String
  | .sendTransaction id _ => id
  | .signMessage id _ => id
  | .signData id _ => id
  | .disconnect id => id

def KnownAppRequest.isDisconnect : KnownAppRequest lib → Bool
  | .disconnect _ => true
  | _ => false

variable (lib)

/-- The single parameter of a method, read as a document. -/
def parseSingleParameter {α : Type} (read : Json → Except String α) (method : String)
    (params : List String) : Except RpcError α :=
  match params with
  | [payload] =>
    match lib.parseJson (utf8 payload) with
    | some json => (read json).mapError .invalidPayload
    | none => .error (.invalidPayload "invalid JSON")
  | _ => .error (.invalidParameterCount method 1 params.length)

def AppRequest.decode (request : AppRequest) : Except RpcError (KnownAppRequest lib) :=
  if request.method = "sendTransaction" then
    (parseSingleParameter lib TransactionPayload.read "sendTransaction" request.params).map
      (.sendTransaction request.id)
  else if request.method = "signMessage" then
    (parseSingleParameter lib TransactionPayload.read "signMessage" request.params).map
      (.signMessage request.id)
  else if request.method = "signData" then
    (parseSingleParameter lib (SignDataPayload.read Json.taggedText Json.structFields)
      "signData" request.params).map (.signData request.id)
  else if request.method = "disconnect" then
    if request.params.isEmpty then .ok (.disconnect request.id)
    else .error (.invalidParameterCount "disconnect" 0 request.params.length)
  else .error (.unsupportedMethod request.method)

variable {lib}

variable (lib) in
/-- The request is exactly one to end the session. -/
def AppRequest.isDisconnect (request : AppRequest) : Bool :=
  match request.decode lib with
  | .ok known => known.isDisconnect
  | .error _ => false

end Requests

section Responses

/-- The errors a wallet answers with. -/
inductive RpcErrorCode where
  | unknown | badRequest | unknownApp | userDeclined | methodNotSupported
  deriving DecidableEq

def RpcErrorCode.number : RpcErrorCode → Nat
  | .unknown => 0
  | .badRequest => 1
  | .unknownApp => 100
  | .userDeclined => 300
  | .methodNotSupported => 400

theorem RpcErrorCode.number_lt (code : RpcErrorCode) : code.number < 2 ^ 64 := by
  cases code <;> decide

inductive WalletResult where
  | string (value : String)
  | object (members : List (String × Json))

structure WalletResponseError where
  code : RpcErrorCode
  message : String
  data : Option Json

/-- A response to the request with the given identifier. -/
inductive WalletResponse where
  | success (result : WalletResult) (id : String)
  | error (failure : WalletResponseError) (id : String)

def WalletResponse.id : WalletResponse → String
  | .success _ id => id
  | .error _ id => id

def WalletResult.toJson : WalletResult → Json
  | .string value => .str value
  | .object members => .obj members

def WalletResponseError.toJson (error : WalletResponseError) : Json :=
  .obj ([("code", .num (.posInt error.code.number error.code.number_lt)),
    ("message", .str error.message)] ++ error.data.toList.map fun data => ("data", data))

def WalletResponse.toJson : WalletResponse → Json
  | .success result id => .obj [("result", result.toJson), ("id", .str id)]
  | .error failure id => .obj [("error", failure.toJson), ("id", .str id)]

inductive ResponseValidationError where
  | requestIdMismatch | invalidResult | emptyResult | signDataPayloadMismatch | invalidErrorCode
  deriving DecidableEq

variable (lib : Libraries)

/-- A signature in canonical base64. -/
def parseSignature (value : String) : Option (Vector UInt8 64) :=
  (lib.base64Decode false true value).bind fun bytes =>
    if sized : bytes.length = 64 then
      if lib.base64Encode false true bytes = value then
        some ⟨bytes.toArray, by simpa using sized⟩
      else none
    else none

/-- The result of signing data, with the payload that was signed. -/
structure SignDataResult where
  signature : Vector UInt8 64
  address : RawAccountAddress
  timestamp : UInt64
  domain : String
  payload : SignDataPayload lib
  deriving DecidableEq

/-- A response after its result was checked against the request. -/
inductive KnownWalletResponse where
  | sendTransaction (boc : CellBoc lib)
  | signMessage (internalBoc : CellBoc lib)
  | signData (result : SignDataResult lib)
  | disconnect
  | error (failure : WalletResponseError)

variable {lib}

def SignDataResult.read (json : Json) : Except String (SignDataResult lib) := do
  let field ← strictFields Json.valueFields
    ["signature", "address", "timestamp", "domain", "payload"] json
  let signature : String ← readMember "signature" field
  let signature ← (parseSignature lib signature).elim (.error "invalid value") .ok
  let payload ← Json.required (field "payload")
  return {
    signature
    address := ← readMember "address" field
    timestamp := ← readMember "timestamp" field
    domain := ← readMember "domain" field
    payload := ← SignDataPayload.read Json.taggedValue Json.valueFields payload }

def readInternalBoc (json : Json) : Except String (CellBoc lib) := do
  let field ← strictFields Json.valueFields ["internalBoc"] json
  readMember "internalBoc" field

def validateSuccessResult (result : WalletResult) (request : KnownAppRequest lib) :
    Except ResponseValidationError (KnownWalletResponse lib) :=
  match request, result with
  | .sendTransaction _ _, .string value =>
    match (ValidatedString.tryFrom value : Option (CellBoc lib)) with
    | some boc => if boc.text = "" then .error .emptyResult else .ok (.sendTransaction boc)
    | none => .error .invalidResult
  | .signMessage _ _, .object members =>
    match readInternalBoc (.obj members) with
    | .ok boc => if boc.text = "" then .error .emptyResult else .ok (.signMessage boc)
    | .error _ => .error .invalidResult
  | .signData _ payload, .object members =>
    match SignDataResult.read (.obj members) with
    | .ok parsed =>
      if parsed.payload ≠ payload then .error .signDataPayloadMismatch
      else .ok (.signData parsed)
    | .error _ => .error .invalidResult
  | .disconnect _, .object [] => .ok .disconnect
  | _, _ => .error .invalidResult

/-- The response answers the request and has a result that its method allows. -/
def WalletResponse.validateFor (response : WalletResponse) (request : KnownAppRequest lib) :
    Except ResponseValidationError (KnownWalletResponse lib) :=
  if response.id ≠ request.id then .error .requestIdMismatch
  else match response with
    | .error failure _ =>
      if request.isDisconnect && failure.code == .userDeclined then .error .invalidErrorCode
      else .ok (.error failure)
    | .success result _ => validateSuccessResult result request

end Responses

end WalletEngine
