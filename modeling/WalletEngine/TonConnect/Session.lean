import WalletEngine.TonConnect.Storage

/-! # TON Connect sessions

A session holds its client, the requests that wait for an answer, and at most one message
that the bridge has not accepted yet. -/

namespace WalletEngine

section Records

/-- A complete message for the bridge. -/
structure TonConnectPreparedPost where
  url : String
  body : String
  deriving DecidableEq

structure TonConnectSessionConfig where
  bridgeUrl : String
  maxEventBytes : UInt64
  messageTtlSeconds : UInt32

structure TonConnectAccountInfo where
  address : String
  network : String
  walletStateInit : String
  publicKey : List UInt8

structure TonConnectDevice where
  platform : DevicePlatform
  appName : String
  appVersion : String

structure TonConnectProofReply where
  timestamp : UInt64
  domain : String
  payload : String
  signature : List UInt8

/-- The data to sign as texts. -/
inductive TonConnectSignDataPayload where
  | text (text : String)
  | binary (bytes : String)
  | cell (schema cell : String)
  deriving DecidableEq

structure TonConnectSignDataRequest where
  payload : TonConnectSignDataPayload
  network : Option String
  sender : Option String
  deriving DecidableEq

/-- A request as it is shown to the user of the session; only a derived session shows one to
sign data. -/
inductive TonConnectIncomingRequest where
  | sendTransaction (id method : String) (request : SendRequest)
  | signMessage (id method : String) (request : SignMessageRequest)
  | signData (id method : String) (request : TonConnectSignDataRequest)
  | disconnect (id method : String)
  | unsupported (id method : String) (errorCode : RpcErrorCode) (errorMessage : String)
  deriving DecidableEq

inductive TonConnectSessionError where
  | failed (diagnostic : String)
  | client (error : TonConnectClientError)
  | device (error : DeviceInfoValidationError)
  | invalidValue
  deriving DecidableEq

/-- The requests that wait for an answer, by identifier. -/
structure PendingRequests where
  requests : List IncomingRequest
  distinct : (requests.map (·.request.id)).Nodup
  deriving DecidableEq

namespace PendingRequests

def empty : PendingRequests := ⟨[], List.nodup_nil⟩

def get (pending : PendingRequests) (id : String) : Option IncomingRequest :=
  pending.requests.find? (·.request.id == id)

def remove (pending : PendingRequests) (id : String) : PendingRequests where
  requests := pending.requests.filter (·.request.id != id)
  distinct := pending.distinct.sublist (List.filter_sublist.map _)

/-- A request replaces one with the same identifier. -/
def insert (pending : PendingRequests) (incoming : IncomingRequest) : PendingRequests where
  requests := (pending.remove incoming.request.id).requests ++ [incoming]
  distinct := by
    rw [List.map_append]
    refine List.nodup_append.mpr ⟨(pending.remove _).distinct, by simp, ?_⟩
    intro id listed other single same
    obtain ⟨request, kept, rfl⟩ := List.mem_map.mp listed
    rw [List.map_singleton, List.mem_singleton] at single
    have different := (List.mem_filter.mp kept).2
    rw [same, single] at different
    simp at different

end PendingRequests

variable (lib : Libraries)

structure TonConnectSessionState where
  client : TonConnectClient lib
  pendingRequests : PendingRequests
  pendingPost : Option TonConnectPreparedPost
  connectedNetwork : Option NetworkId

abbrev SessionM := EStateM TonConnectSessionError (TonConnectSessionState lib)

end Records

section Incoming

variable {lib : Libraries}

def tonConnectMaxMessages : UInt32 := 255

/-- The account that a transaction is checked against. -/
structure RequestContext where
  network : NetworkId
  address : RawAccountAddress
  clientId : ClientId

inductive TransactionRequestKind where
  | send | sign
  deriving DecidableEq

def unsupportedRequest (id method : String) (code : RpcErrorCode) (message : String) :
    TonConnectIncomingRequest :=
  .unsupported id method code (boundedDiagnostic message)

def requestContext (state : TonConnectSessionState lib) :
    Except TonConnectSessionError RequestContext :=
  match state.connectedNetwork, state.client.connectedAddress with
  | none, _ => .error (.failed "connected network is unavailable")
  | some _, none => .error (.failed "connected address is unavailable")
  | some network, some address => .ok ⟨network, address, state.client.crypto.clientId lib⟩

/-- The bytes of a cell, checked once more. -/
def bocOf (boc : CellBoc lib) : Except TonConnectSessionError Boc :=
  if lib.singleRootBoc boc.bytes then .ok ⟨boc.bytes⟩ else .error .invalidValue

/-- A message of the dApp as a message to send; extra currencies cannot be sent. -/
def sendMessageOf (message : RawMessage lib) : Except TonConnectSessionError SendMessage := do
  let payload ← message.payload.mapM bocOf
  let stateInit ← message.stateInit.mapM bocOf
  let destination ← (lib.parseTonAddress message.address.text).elim (.error .invalidValue) .ok
  let amount ← (UnsignedDecimalString.tryFrom message.amount.text).elim (.error .invalidValue) .ok
  return {
    destination
    amount := .exact amount
    body := payload.elim .empty .rawPayload
    bounce := message.address.parts.bounceable
    stateInit }

def RawMessage.hasExtraCurrency (message : RawMessage lib) : Bool :=
  message.extraCurrency.any fun currencies => !currencies.entries.isEmpty

/-- The messages up to the first with extra currencies; `none` when there is one. -/
def sendMessages : List (RawMessage lib) →
    Except TonConnectSessionError (Option (List SendMessage))
  | [] => .ok (some [])
  | message :: messages =>
    if message.hasExtraCurrency then .ok none
    else do
      let first ← sendMessageOf message
      let rest ← sendMessages messages
      return rest.map (first :: ·)

def decodeTransactionRequest (context : RequestContext) (requestId method : String)
    (payload : TransactionPayload lib) (now : UInt64) (kind : TransactionRequestKind) :
    Except TonConnectSessionError TonConnectIncomingRequest :=
  match payload.validateContext now context.network context.address with
  | .error error => .ok (unsupportedRequest requestId method .badRequest error.toText)
  | .ok () =>
    match payload with
    | .structured _ => .ok (unsupportedRequest requestId method .methodNotSupported
        "Structured transactions are not supported")
    | .raw payload =>
      if tonConnectMaxMessages.toNat < payload.messages.items.length then
        .ok (unsupportedRequest requestId method .methodNotSupported
          "Outgoing message batch exceeds wallet capability")
      else
        (sendMessages payload.messages.items).bind fun messages =>
          match messages with
          | none => .ok (unsupportedRequest requestId method .methodNotSupported
              "Extra currencies are not supported")
          | some messages => do
              let operationId ← (NonEmptyString.tryFrom
                ("ton-connect:" ++ context.clientId.toText ++ ":" ++ requestId)).elim
                  (.error .invalidValue) .ok
              let expiration := payload.validUntil.elim .engineDefault fun value =>
                SendExpiration.exact value.toNat
              return match kind with
                | .send => .sendTransaction requestId method
                    ⟨operationId, false, ⟨expiration, messages⟩⟩
                | .sign => .signMessage requestId method
                    ⟨operationId, false, ⟨expiration, messages⟩⟩

/-- What a request of the dApp asks for, as far as the session supports it. -/
def decodeIncoming (state : TonConnectSessionState lib) (incoming : IncomingRequest)
    (now : UInt64) : Except TonConnectSessionError TonConnectIncomingRequest :=
  let id := incoming.request.id
  let method := incoming.request.method
  match incoming.request.decode lib with
  | .ok (.sendTransaction _ payload) => do
      let context ← requestContext state
      decodeTransactionRequest context id method payload now .send
  | .ok (.signMessage _ payload) => do
      let context ← requestContext state
      decodeTransactionRequest context id method payload now .sign
  | .ok (.disconnect _) => .ok (.disconnect id method)
  | .ok (.signData _ _) => .ok (unsupportedRequest id method .methodNotSupported
      "Method is not supported")
  | .error error => .ok (unsupportedRequest id method .badRequest error.toText)

end Incoming

section Calls

variable {lib : Libraries}

namespace TonConnectSession

/-- A call on the client of the session. -/
def withClient {α : Type} (call : ClientM lib α) : SessionM lib α :=
  Call.within TonConnectSessionState.client (fun client state => { state with client })
    TonConnectSessionError.client call

def ensureNoPendingPost : SessionM lib Unit := do
  let state ← get
  Call.ensure (.failed "a durable bridge response is already pending delivery")
    (state.pendingPost = none)

/-- Keep a message until the bridge accepts it. -/
def stagePost (post : PreparedBridgePost lib) : SessionM lib TonConnectPreparedPost := do
  let post : TonConnectPreparedPost := ⟨post.url.text, post.body.text⟩
  modify fun state => { state with pendingPost := some post }
  return post

def nonzeroUsize (value : UInt64) : Except TonConnectSessionError NonZeroUsize :=
  if positive : 0 < value.toNat then .ok ⟨value.toNat, positive⟩
  else .error (.failed "max event bytes must be positive")

def nonzeroTtl (value : UInt32) : Except TonConnectSessionError NonZeroU32 :=
  if positive : value ≠ 0 then .ok ⟨value, positive⟩
  else .error (.failed "message TTL must be positive")

def clientConfig (config : TonConnectSessionConfig) :
    Except TonConnectSessionError (TonConnectClientConfig lib) := do
  let bridgeUrl ← (HttpBridgeUrl.tryFrom config.bridgeUrl).elim (.error .invalidValue) .ok
  let maxEventBytes ← nonzeroUsize config.maxEventBytes
  let messageTtlSeconds ← nonzeroTtl config.messageTtlSeconds
  return { bridgeUrl, maxEventBytes, messageTtlSeconds, heartbeat := .message }

/-- A fresh session from a parsed link. -/
def fromLink (link : ConnectLink lib) (config : TonConnectSessionConfig)
    (secretKey : Option (Vector UInt8 32)) :
    Except TonConnectSessionError (TonConnectSessionState lib) := do
  let config ← clientConfig config
  let client ← (TonConnectClient.fromParsedLink link config secretKey).mapError .client
  return { client, pendingRequests := .empty, pendingPost := none, connectedNetwork := none }

/-- Events are read only while no message waits for the bridge. -/
def beginEventsSubscription : SessionM lib Url := do
  let state ← get
  Call.ensure (.failed "a durable bridge response must be delivered before reading events")
    (state.pendingPost = none)
  withClient TonConnectClient.beginEventsSubscription

def accountReply (account : TonConnectAccountInfo) :
    Except TonConnectSessionError (TonAddressItemReply lib × NetworkId) := do
  let address ← (RawAccountAddress.fromStr account.address).elim (.error .invalidValue) .ok
  let network ← (ValidatedString.tryFrom account.network).elim (.error .invalidValue) .ok
  let walletStateInit ← (ValidatedString.tryFrom account.walletStateInit).elim
    (.error .invalidValue) .ok
  if sized : account.publicKey.length = 32 then
    return ({ address, network, walletStateInit,
              publicKey := ⟨account.publicKey.toArray, by simpa using sized⟩ }, network)
  else .error (.failed "TON Connect public key must contain 32 bytes")

def proofReply (proof : TonConnectProofReply) : Except TonConnectSessionError TonProof :=
  if sized : proof.signature.length = 64 then
    match TonProofDomain.new proof.domain with
    | some domain => .ok
        { timestamp := proof.timestamp, domain, payload := proof.payload,
          signature := ⟨proof.signature.toArray, by simpa using sized⟩ }
    | none => .error .invalidValue
  else .error (.failed "TON Connect proof signature must contain 64 bytes")

/-- The reply to one item of the link. -/
def itemReply (account : TonAddressItemReply lib) (proof : Option TonConnectProofReply)
    (item : ConnectItem) : Except TonConnectSessionError (ConnectItemReply lib) :=
  match item with
  | .tonAddr _ => .ok (.tonAddress account)
  | .tonProof payload =>
    match proof.filter (·.payload == payload) with
    | some proof => (proofReply proof).map .tonProof
    | none => .error (.failed "connect request requires a matching ownership proof")
  | .unsupported _ => .ok (.unsupported item (some "Method is not supported"))

/-- What the session can do. -/
def messageFeature : MessageFeature where
  maxMessages := tonConnectMaxMessages
  extraCurrencySupported := some false
  itemTypes := none
  positive := by decide
  distinct := by simp

def embeddedNotSupported : EmbeddedResponse :=
  .error ⟨.methodNotSupported, "Embedded request is not supported", none⟩

def approveConnect (nonce : Option (Vector UInt8 24)) (account : TonConnectAccountInfo)
    (proof : Option TonConnectProofReply) (device : TonConnectDevice) :
    SessionM lib TonConnectPreparedPost := do
  ensureNoPendingPost
  let state ← get
  let request ← Call.require (.failed "connect request is no longer pending")
    state.client.connectRequest
  let (account, network) ← Call.check id (accountReply account)
  let items ← Call.check id (request.items.items.mapM (itemReply account proof))
  let device ← Call.check TonConnectSessionError.device
    (DeviceInfo.new device.platform device.appName device.appVersion protocolVersion
      [.sendTransaction messageFeature, .signMessage messageFeature])
  let embeddedResponse := state.client.embeddedRequest.map fun _ => embeddedNotSupported
  let post ← withClient (TonConnectClient.approveConnect nonce items device embeddedResponse)
  modify fun state => { state with connectedNetwork := some network }
  stagePost post

def rejectConnect (nonce : Option (Vector UInt8 24)) (message : String) :
    SessionM lib TonConnectPreparedPost := do
  ensureNoPendingPost
  let post ← withClient
    (TonConnectClient.rejectConnect nonce .userDeclined (boundedDiagnostic message))
  stagePost post

/-- Requests of a chunk become pending one after the other. -/
def addRequests (now : UInt64) :
    List IncomingRequest → SessionM lib (List TonConnectIncomingRequest)
  | [] => return []
  | incoming :: rest => do
      let state ← get
      let shown ← Call.check id (decodeIncoming state incoming now)
      modify fun state =>
        { state with pendingRequests := state.pendingRequests.insert incoming }
      Call.ensure (.failed "bridge delivered a duplicate pending request ID")
        (state.pendingRequests.get incoming.request.id = none)
      let others ← addRequests now rest
      return shown :: others

def ingestSseChunk (chunk : List UInt8) (now : UInt64) :
    SessionM lib (List TonConnectIncomingRequest) := do
  let incoming ← withClient (TonConnectClient.ingestSseChunk chunk)
  addRequests now incoming

/-- The requests that wait, as they are shown. -/
def pendingRequests (state : TonConnectSessionState lib) (now : UInt64) :
    Except TonConnectSessionError (List TonConnectIncomingRequest) :=
  state.pendingRequests.requests.mapM (decodeIncoming state · now)

/-- Answer a pending request; it stops waiting when its response is staged. -/
def prepareResponse (nonce : Option (Vector UInt8 24)) (requestId : String)
    (response : WalletResponse) : SessionM lib TonConnectPreparedPost := do
  ensureNoPendingPost
  let state ← get
  let incoming ← Call.require (.failed "request is not pending")
    (state.pendingRequests.get requestId)
  let post ← withClient (TonConnectClient.prepareResponse nonce incoming response)
  modify fun state => { state with pendingRequests := state.pendingRequests.remove requestId }
  stagePost post

def prepareSendSuccess (nonce : Option (Vector UInt8 24)) (requestId signedBoc : String) :
    SessionM lib TonConnectPreparedPost :=
  prepareResponse nonce requestId (.success (.string signedBoc) requestId)

def prepareSignMessageSuccess (nonce : Option (Vector UInt8 24)) (requestId internalBoc : String) :
    SessionM lib TonConnectPreparedPost := do
  let boc ← Call.require .invalidValue (ValidatedString.tryFrom internalBoc : Option (CellBoc lib))
  prepareResponse nonce requestId
    (.success (.object [("internalBoc", .str boc.text)]) requestId)

def prepareDisconnectSuccess (nonce : Option (Vector UInt8 24)) (requestId : String) :
    SessionM lib TonConnectPreparedPost :=
  prepareResponse nonce requestId (.success (.object []) requestId)

def prepareError (nonce : Option (Vector UInt8 24)) (requestId : String) (code : RpcErrorCode)
    (message : String) : SessionM lib TonConnectPreparedPost :=
  prepareResponse nonce requestId
    (.error ⟨code, boundedDiagnostic message, none⟩ requestId)

def disconnect (nonce : Option (Vector UInt8 24)) : SessionM lib TonConnectPreparedPost := do
  ensureNoPendingPost
  let post ← withClient (TonConnectClient.disconnect nonce none)
  stagePost post

def completePendingPost : SessionM lib Unit :=
  modify fun state => { state with pendingPost := none }

end TonConnectSession

end Calls

section Storage

variable {lib : Libraries}

instance : Wire TonConnectPreparedPost where
  codec := (((Fields.member "url").both (Fields.member "body") (by decide)).record
    (fun parts : String × String => ⟨parts.1, parts.2⟩) (fun post => (post.url, post.body))
    (fun _ => id) fun change post => by simp).object
  present _ := rfl

instance : Floatless TonConnectPreparedPost := ⟨fun _ => rfl⟩

/-- The saved form of a session. -/
structure PersistedTonConnectSession (lib : Libraries) where
  client : PersistedTonConnectClient lib
  /-- Each pending request as a document of its own. -/
  pendingRequests : List String
  pendingPost : Option TonConnectPreparedPost
  connectedNetwork : Option NetworkId

namespace PersistedTonConnectSession

def refloat (change : String → String) (session : PersistedTonConnectSession lib) :
    PersistedTonConnectSession lib :=
  { session with client := session.client.refloat change }

def fields : Fields (PersistedTonConnectSession lib) :=
  ((((Fields.required "client" PersistedTonConnectClient.fields.object).both
    (Fields.member "pendingRequests") (of_decide_eq_true rfl)).both
    (Fields.nullable "pendingPost") (of_decide_eq_true rfl)).both
    (Fields.nullable "connectedNetwork") (of_decide_eq_true rfl)).record
      (fun (((client, pendingRequests), pendingPost), connectedNetwork) =>
        ⟨client, pendingRequests, pendingPost, connectedNetwork⟩)
      (fun session => (((session.client, session.pendingRequests), session.pendingPost),
        session.connectedNetwork))
      refloat fun change session => by
        simp [refloat]
        rfl

/-- Reading a saved session checks its client. -/
def decode (json : Json) : Except String (PersistedTonConnectSession lib) := do
  let session ← fields.object.decode json
  session.client.validate
  return session

end PersistedTonConnectSession

namespace TonConnectSession

def toPersisted (state : TonConnectSessionState lib) :
    Except TonConnectSessionError (PersistedTonConnectSession lib) := do
  let client ← state.client.persisted.mapError .client
  return {
    client
    pendingRequests := state.pendingRequests.requests.map (·.persisted lib)
    pendingPost := state.pendingPost
    connectedNetwork := state.connectedNetwork }

/-- The text a session is saved as. -/
def persisted (state : TonConnectSessionState lib) : Except TonConnectSessionError String := do
  let persisted ← toPersisted state
  return lib.printJson (PersistedTonConnectSession.fields.object.encode persisted)

variable (lib) in
/-- The requests of a saved session, each identifier at most once. -/
def restoreRequests (pending : PendingRequests) :
    List String → Except TonConnectSessionError PendingRequests
  | [] => .ok pending
  | text :: texts => do
      let incoming ← (IncomingRequest.restore lib text).mapError .client
      if (pending.get incoming.request.id).isSome then
        .error (.failed "persisted session contains duplicate pending request IDs")
      else restoreRequests (pending.insert incoming) texts

def fromPersisted (persisted : PersistedTonConnectSession lib)
    (config : TonConnectSessionConfig) :
    Except TonConnectSessionError (TonConnectSessionState lib) := do
  let maxEventBytes ← nonzeroUsize config.maxEventBytes
  let messageTtlSeconds ← nonzeroTtl config.messageTtlSeconds
  let client ← (TonConnectClient.restore persisted.client maxEventBytes messageTtlSeconds
    .message).mapError .client
  let pendingRequests ← restoreRequests lib .empty persisted.pendingRequests
  return {
    client
    pendingRequests
    pendingPost := persisted.pendingPost
    connectedNetwork := persisted.connectedNetwork }

/-- A session from its saved text, with the keys it had. -/
def restore (text : String) (config : TonConnectSessionConfig) :
    Except TonConnectSessionError (TonConnectSessionState lib) := do
  let json ← (lib.parseJson (utf8 text)).elim (.error .invalidValue) .ok
  let persisted ← (PersistedTonConnectSession.decode json).mapError fun _ => .invalidValue
  fromPersisted persisted config

end TonConnectSession

end Storage

end WalletEngine
