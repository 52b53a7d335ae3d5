import WalletEngine.Data.Stateful
import WalletEngine.TonConnect.DeepLink
import WalletEngine.TonConnect.SessionState
import WalletEngine.TonConnect.Sse

/-! # The client of one bridge session

The client keeps the keys, the replay baseline and the stream position of a session with one
dApp. Its host streams the bridge's events into it and posts what it prepares. -/

namespace WalletEngine

section Client

variable (lib : Libraries)

/-- A number of seconds that is not zero. -/
abbrev NonZeroU32 := {value : UInt32 // value ≠ 0}

structure TonConnectClientConfig where
  bridgeUrl : HttpBridgeUrl lib
  maxEventBytes : NonZeroUsize
  messageTtlSeconds : NonZeroU32
  heartbeat : HeartbeatMode

/-- A fresh request of the dApp that the reducer accepted. -/
structure IncomingRequest where
  request : AppRequest
  traceId : Option TraceId
  closesSession : Bool
  deriving DecidableEq

/-- An encrypted message and where to post it. -/
structure PreparedBridgePost where
  url : Url
  body : Base64Value lib
  deriving DecidableEq

inductive BridgeCodecError where
  | entropyUnavailable | encryptionFailed | invalidBase64
  deriving DecidableEq

inductive HttpSessionError where
  | invalidKeyPair | invalidEventId | invalidAccountBinding
  deriving DecidableEq

inductive TonConnectClientError where
  | missingConnectRequest | missingConnectedAddress | responseIdMismatch | invalidPendingRequest
  | pendingRequestJson | entropyUnavailable
  | connectValidation (error : ConnectValidationError)
  | sessionState (error : SessionStateError)
  | httpBridge (error : HttpBridgeError)
  | bridgeCodec (error : BridgeCodecError)
  | responseValidation (error : ResponseValidationError)
  | httpSession (error : HttpSessionError)
  | embeddedRequest
  deriving DecidableEq

structure TonConnectClient where
  connectRequest : Option (ConnectRequest lib)
  embeddedRequest : Option (EmbeddedRequest lib)
  initialTraceId : Option TraceId
  peerClientId : ClientId
  bridgeUrl : HttpBridgeUrl lib
  maxEventBytes : NonZeroUsize
  messageTtlSeconds : NonZeroU32
  heartbeat : HeartbeatMode
  crypto : SessionCrypto
  reducer : WalletSessionState
  connectedAddress : Option RawAccountAddress
  lastBridgeEventId : Option String
  decoder : BridgeSseDecoder

abbrev ClientM := EStateM TonConnectClientError (TonConnectClient lib)

variable {lib}

/-- The JSON text of a payload, encrypted for the peer under a fresh nonce. -/
def HttpBridgeUrl.preparePost (bridge : HttpBridgeUrl lib) (crypto : SessionCrypto)
    (nonce : Option (Vector UInt8 24)) (recipient : ClientId) (ttl : UInt32)
    (topic : Option String) (traceId : Option TraceId) (payload : Json) :
    Except BridgeCodecError (PreparedBridgePost lib) := do
  let plaintext := utf8 (lib.printJson payload)
  if nonce.isNone then throw .entropyUnavailable
  let encrypted ← (crypto.encrypt lib nonce recipient plaintext).elim (.error .encryptionFailed) .ok
  let body ← (ValidatedString.tryFrom (lib.base64Encode false true encrypted)).elim
    (.error .invalidBase64) .ok
  return { url := bridge.messageEndpoint (crypto.clientId lib) recipient ttl topic traceId, body }

/-- A payload that can be encrypted can be posted. -/
theorem HttpBridgeUrl.preparePost_of_encrypt {bridge : HttpBridgeUrl lib} {crypto : SessionCrypto}
    {nonce : Vector UInt8 24} {recipient : ClientId} {ttl : UInt32} {topic : Option String}
    {traceId : Option TraceId} {payload : Json} {encrypted : List UInt8}
    (encrypts : crypto.encrypt lib (some nonce) recipient (utf8 (lib.printJson payload)) =
      some encrypted) :
    ∃ post, bridge.preparePost crypto (some nonce) recipient ttl topic traceId payload =
      .ok post := by
  have valid : (lib.decodeBase64 (lib.base64Encode false true encrypted)).isSome = true := by
    rw [lib.base64_standard]
    rfl
  refine ⟨⟨bridge.messageEndpoint (crypto.clientId lib) recipient ttl topic traceId,
    lib.base64Encode false true encrypted, valid⟩, ?_⟩
  unfold HttpBridgeUrl.preparePost
  refine except_guard_eq_ok.mpr ⟨Bool.false_ne_true, except_bind_eq_ok.mpr ⟨encrypted, ?_, ?_⟩⟩
  · rw [encrypts]
    rfl
  · rw [ValidatedString.tryFrom, dif_pos valid]
    rfl

namespace TonConnectClient

/-- A fresh session with new keys; `none` when no keys could be drawn. -/
def fromParsedLink (link : ConnectLink lib) (config : TonConnectClientConfig lib)
    (secretKey : Option (Vector UInt8 32)) :
    Except TonConnectClientError (TonConnectClient lib) := do
  let request ← link.request.elim (.error .missingConnectRequest) .ok
  let secretKey ← secretKey.elim (.error .entropyUnavailable) .ok
  return {
    connectRequest := some request
    embeddedRequest := link.embeddedRequest
    initialTraceId := link.traceId
    peerClientId := link.clientId
    bridgeUrl := config.bridgeUrl
    maxEventBytes := config.maxEventBytes
    messageTtlSeconds := config.messageTtlSeconds
    heartbeat := config.heartbeat
    crypto := ⟨secretKey⟩
    reducer := .pendingConnect
    connectedAddress := none
    lastBridgeEventId := none
    decoder := .new config.maxEventBytes }

/-- A new subscription resumes behind the last event and forgets a half-read one. -/
def beginEventsSubscription : ClientM lib Url := do
  modify fun client => { client with decoder := .new client.maxEventBytes }
  let client ← get
  return client.bridgeUrl.eventsEndpoint (client.crypto.clientId lib) client.lastBridgeEventId
    client.initialTraceId client.heartbeat

def preparePost (nonce : Option (Vector UInt8 24)) (payload : Json) (topic : Option String)
    (traceId : Option TraceId) : ClientM lib (PreparedBridgePost lib) := do
  let client ← get
  Call.check .bridgeCodec (client.bridgeUrl.preparePost client.crypto nonce client.peerClientId
    client.messageTtlSeconds.1 topic traceId payload)

/-- The connect event was decided: the link's request is done. -/
def decided (client : TonConnectClient lib) (reducer : WalletSessionState)
    (address : Option RawAccountAddress) : TonConnectClient lib :=
  { client with
    reducer
    connectedAddress := address
    connectRequest := none
    embeddedRequest := none
    initialTraceId := none }

def approveConnect (nonce : Option (Vector UInt8 24)) (items : List (ConnectItemReply lib))
    (device : DeviceInfo) (embeddedResponse : Option EmbeddedResponse) :
    ClientM lib (PreparedBridgePost lib) := do
  let client ← get
  let request ← Call.require .missingConnectRequest client.connectRequest
  let transition ← Call.check .sessionState (client.reducer.prepareEvent .connect)
  let event := ConnectEvent.connect transition.id items device embeddedResponse
  Call.check .connectValidation (event.validateForConnect request client.embeddedRequest)
  let account ← Call.require .missingConnectedAddress (items.findSome? ConnectItemReply.account)
  let post ← preparePost nonce event.toJson none client.initialTraceId
  modify (·.decided transition.nextState (some account.address))
  return post

def rejectConnect (nonce : Option (Vector UInt8 24)) (code : ConnectEventErrorCode)
    (message : String) : ClientM lib (PreparedBridgePost lib) := do
  let client ← get
  let transition ← Call.check .sessionState (client.reducer.prepareEvent .connectError)
  let event : ConnectEvent lib := .connectError transition.id code message
  let post ← preparePost nonce event.toJson none client.initialTraceId
  modify (·.decided transition.nextState client.connectedAddress)
  return post

def disconnect (nonce : Option (Vector UInt8 24)) (traceId : Option TraceId) :
    ClientM lib (PreparedBridgePost lib) := do
  let client ← get
  let transition ← Call.check .sessionState (client.reducer.prepareEvent .disconnect)
  let event : ConnectEvent lib := .disconnect transition.id
  let post ← preparePost nonce event.toJson none traceId
  modify fun client => { client with reducer := transition.nextState }
  return post

/-- The stream position moves to an event that names one. -/
def seen (client : TonConnectClient lib) (event : BridgeSseMessage lib) : TonConnectClient lib :=
  { client with lastBridgeEventId := event.eventId.or client.lastBridgeEventId }

/-- Take one event of the stream: move the cursor, and accept what it carries if that is a
fresh request of the peer. Everything else is passed over. -/
def acceptEvent (client : TonConnectClient lib) (event : BridgeSseMessage lib) :
    TonConnectClient lib × Option IncomingRequest :=
  match event.message.decrypt client.crypto client.peerClientId with
  | none => (client.seen event, none)
  | some request =>
    match client.reducer.prepareRequest request with
    | .error _ => (client.seen event, none)
    | .ok prepared =>
      ({ client.seen event with reducer := prepared.nextState },
        some ⟨request, event.message.traceId, prepared.closesSession⟩)

def acceptEvents (client : TonConnectClient lib) :
    List (BridgeSseMessage lib) → TonConnectClient lib × List IncomingRequest
  | [] => (client, [])
  | event :: events =>
    let (client, request) := client.acceptEvent event
    let (client, requests) := client.acceptEvents events
    (client, request.toList ++ requests)

/-- Decode a chunk of the stream and return the fresh requests in it. -/
def ingestSseChunk (chunk : List UInt8) : ClientM lib (List IncomingRequest) := do
  let client ← get
  let pushed := client.decoder.push chunk
  modify fun client => { client with decoder := pushed.1 }
  let events ← Call.check .httpBridge pushed.2
  modifyGet fun client => (client.acceptEvents events).swap

/-- The response fits the request as far as that is known, and is encrypted for the peer. -/
def prepareResponse (nonce : Option (Vector UInt8 24)) (incoming : IncomingRequest)
    (response : WalletResponse) : ClientM lib (PreparedBridgePost lib) := do
  Call.ensure .responseIdMismatch (response.id = incoming.request.id)
  match incoming.request.decode lib with
  | .ok known =>
    let _ ← Call.check .responseValidation (response.validateFor known)
  | .error _ => pure ()
  preparePost nonce response.toJson (some incoming.request.method) incoming.traceId

section Specifications

variable {nonce : Option (Vector UInt8 24)} {before after : TonConnectClient lib}
  {post : PreparedBridgePost lib}

theorem readOnly_preparePost (payload : Json) (topic : Option String) (traceId : Option TraceId) :
    Call.ReadOnly (preparePost nonce payload topic traceId : ClientM lib _) :=
  Call.readOnly_get.bind fun _ => Call.readOnly_check _ _

theorem preparePost_bind_returns {β : Type} {payload : Json} {topic : Option String}
    {traceId : Option TraceId} {next : PreparedBridgePost lib → ClientM lib β} {value : β} :
    (preparePost nonce payload topic traceId >>= next).run before = .ok value after ↔
      ∃ post, before.bridgeUrl.preparePost before.crypto nonce before.peerClientId
        before.messageTtlSeconds.1 topic traceId payload = .ok post ∧
        (next post).run before = .ok value after :=
  Call.check_bind_returns

theorem atomic_approveConnect (items : List (ConnectItemReply lib)) (device : DeviceInfo)
    (response : Option EmbeddedResponse) :
    Call.Atomic (approveConnect nonce items device response) := by
  refine Call.readOnly_get.bind_atomic fun client => ?_
  refine (Call.readOnly_require _ _).bind_atomic fun request => ?_
  refine (Call.readOnly_check _ _).bind_atomic fun transition => ?_
  refine (Call.readOnly_check _ _).bind_atomic fun _ => ?_
  refine (Call.readOnly_require _ _).bind_atomic fun account => ?_
  refine (readOnly_preparePost _ _ _).atomic.bind_infallible fun post => ?_
  exact (Call.infallible_modify _).bind fun _ => Call.infallible_pure _

theorem atomic_rejectConnect (code : ConnectEventErrorCode) (message : String) :
    Call.Atomic (rejectConnect nonce code message : ClientM lib _) := by
  refine Call.readOnly_get.bind_atomic fun client => ?_
  refine (Call.readOnly_check _ _).bind_atomic fun transition => ?_
  refine (readOnly_preparePost _ _ _).atomic.bind_infallible fun post => ?_
  exact (Call.infallible_modify _).bind fun _ => Call.infallible_pure _

theorem atomic_disconnect (traceId : Option TraceId) :
    Call.Atomic (disconnect nonce traceId : ClientM lib _) := by
  refine Call.readOnly_get.bind_atomic fun client => ?_
  refine (Call.readOnly_check _ _).bind_atomic fun transition => ?_
  refine (readOnly_preparePost _ _ _).atomic.bind_infallible fun post => ?_
  exact (Call.infallible_modify _).bind fun _ => Call.infallible_pure _

theorem approveConnect_returns {items : List (ConnectItemReply lib)} {device : DeviceInfo}
    {response : Option EmbeddedResponse}
    (ran : (approveConnect nonce items device response).run before = .ok post after) :
    ∃ request transition account,
      before.connectRequest = some request ∧
      before.reducer.prepareEvent .connect = .ok transition ∧
      (ConnectEvent.connect transition.id items device response).validateForConnect request
        before.embeddedRequest = .ok () ∧
      items.findSome? ConnectItemReply.account = some account ∧
      before.bridgeUrl.preparePost before.crypto nonce before.peerClientId
        before.messageTtlSeconds.1 none before.initialTraceId
        (ConnectEvent.connect transition.id items device response).toJson = .ok post ∧
      after = before.decided transition.nextState (some account.address) := by
  obtain ⟨request, pending, ran⟩ := Call.require_bind_returns.mp (Call.get_bind_returns.mp ran)
  obtain ⟨transition, allowed, ran⟩ := Call.check_bind_returns.mp ran
  obtain ⟨_, valid, ran⟩ := Call.check_bind_returns.mp ran
  obtain ⟨account, address, ran⟩ := Call.require_bind_returns.mp ran
  obtain ⟨written, posted, ran⟩ := preparePost_bind_returns.mp ran
  have ran := Call.modify_bind_returns.mp ran
  obtain ⟨rfl, rfl⟩ := Call.pure_returns.mp ran
  exact ⟨request, transition, account, pending, allowed, valid, address, posted, rfl⟩

theorem rejectConnect_returns {code : ConnectEventErrorCode} {message : String}
    (ran : (rejectConnect nonce code message).run before = .ok post after) :
    ∃ transition, before.reducer.prepareEvent .connectError = .ok transition ∧
      after = before.decided transition.nextState before.connectedAddress := by
  obtain ⟨transition, allowed, ran⟩ := Call.check_bind_returns.mp (Call.get_bind_returns.mp ran)
  obtain ⟨written, posted, ran⟩ := preparePost_bind_returns.mp ran
  have ran := Call.modify_bind_returns.mp ran
  obtain ⟨-, rfl⟩ := Call.pure_returns.mp ran
  exact ⟨transition, allowed, rfl⟩

theorem disconnect_returns {traceId : Option TraceId}
    (ran : (disconnect nonce traceId).run before = .ok post after) :
    ∃ transition, before.reducer.prepareEvent .disconnect = .ok transition ∧
      after = { before with reducer := transition.nextState } := by
  obtain ⟨transition, allowed, ran⟩ := Call.check_bind_returns.mp (Call.get_bind_returns.mp ran)
  obtain ⟨written, posted, ran⟩ := preparePost_bind_returns.mp ran
  have ran := Call.modify_bind_returns.mp ran
  obtain ⟨-, rfl⟩ := Call.pure_returns.mp ran
  exact ⟨transition, allowed, rfl⟩

/-- An event is passed over, or it carries a request of the peer that the reducer accepts. -/
theorem acceptEvent_cases (client : TonConnectClient lib) (event : BridgeSseMessage lib) :
    client.acceptEvent event = (client.seen event, none) ∨
      ∃ request prepared,
        event.message.decrypt client.crypto client.peerClientId = some request ∧
        client.reducer.prepareRequest request = .ok prepared ∧
        client.acceptEvent event = ({ client.seen event with reducer := prepared.nextState },
          some ⟨request, event.message.traceId, prepared.closesSession⟩) := by
  unfold acceptEvent
  cases decrypted : event.message.decrypt client.crypto client.peerClientId with
  | none => exact .inl rfl
  | some request =>
    cases accepted : client.reducer.prepareRequest request with
    | error error => exact .inl (by simp only [accepted])
    | ok prepared => exact .inr ⟨request, prepared, rfl, accepted, by simp only [accepted]⟩

/-- The client with the decoder that has taken a chunk. -/
def pushed (client : TonConnectClient lib) (chunk : List UInt8) : TonConnectClient lib :=
  let pushed : BridgeSseDecoder × Except HttpBridgeError (List (BridgeSseMessage lib)) :=
    client.decoder.push chunk
  { client with decoder := pushed.1 }

theorem ingestSseChunk_returns {chunk : List UInt8} {requests : List IncomingRequest} :
    (ingestSseChunk chunk).run before = .ok requests after ↔
      ∃ events, (before.decoder.push chunk).2 = .ok events ∧
        (before.pushed chunk).acceptEvents events = (after, requests) := by
  refine Call.get_bind_returns.trans (Call.modify_bind_returns.trans
    (Call.check_bind_returns.trans (exists_congr fun events => and_congr_right fun _ => ?_)))
  change EStateM.Result.ok ((before.pushed chunk).acceptEvents events).2
    ((before.pushed chunk).acceptEvents events).1 = _ ↔ _
  rw [EStateM.Result.ok.injEq, Prod.ext_iff]
  exact and_comm

theorem ingestSseChunk_fails {chunk : List UInt8} {error : TonConnectClientError}
    (ran : (ingestSseChunk chunk).run before = .error error after) :
    after = before.pushed chunk := by
  rcases Call.bind_fails.mp ran with ⟨⟨⟩⟩ | ⟨_, _, ⟨⟩, ran⟩
  rcases Call.bind_fails.mp ran with ⟨⟨⟩⟩ | ⟨_, _, ⟨⟩, ran⟩
  rcases Call.bind_fails.mp ran with failed | ⟨_, _, -, ⟨⟩⟩
  exact (Call.readOnly_check _ _).fails failed

end Specifications

end TonConnectClient

end Client

end WalletEngine
