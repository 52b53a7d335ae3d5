import WalletEngine.TonConnect.Client

/-! # The stored form of a client

A client is saved with its secret key and everything that is not stream-local. Reading a
saved client checks the parts against each other again. -/

namespace WalletEngine

section HttpSession

variable {lib : Libraries}

/-- Neither a null character nor a line end may be sent as a resume position. -/
def validEventId (eventId : Option String) : Bool :=
  eventId.all fun id => id.toList.all fun c => c != '\x00' && c != '\r' && c != '\n'

/-- A pending session has no account and a connected one does. -/
def validAccountBinding (phase : WalletSessionPhase) (address : Option RawAccountAddress) : Bool :=
  match phase with
  | .pendingConnect => address.isNone
  | .connected => address.isSome
  | .disconnected => true

/-- The saved part of the session that belongs to the bridge. -/
structure PersistedHttpSession (lib : Libraries) where
  crypto : SessionCrypto
  peerClientId : ClientId
  bridgeUrl : HttpBridgeUrl lib
  reducer : WalletSessionState
  connectedAddress : Option RawAccountAddress
  lastBridgeEventId : Option String
  cursor : validEventId lastBridgeEventId = true
  binding : validAccountBinding reducer.phase connectedAddress = true

def PersistedHttpSession.new (crypto : SessionCrypto) (peerClientId : ClientId)
    (bridgeUrl : HttpBridgeUrl lib) (reducer : WalletSessionState)
    (connectedAddress : Option RawAccountAddress) (lastBridgeEventId : Option String) :
    Except HttpSessionError (PersistedHttpSession lib) :=
  if cursor : validEventId lastBridgeEventId = true then
    if binding : validAccountBinding reducer.phase connectedAddress = true then
      .ok ⟨crypto, peerClientId, bridgeUrl, reducer, connectedAddress, lastBridgeEventId, cursor,
        binding⟩
    else .error .invalidAccountBinding
  else .error .invalidEventId

def secretKeyCodec : Codec (Vector UInt8 32) :=
  .text lowerHexKey (fun bytes => String.ofList (hexEncode bytes.toList)) lowerHexKey_hexEncode

variable (lib) in
/-- The key pair; its halves must belong together. -/
def keyPairCodec : Codec SessionCrypto :=
  ((Fields.member "publicKey").both (Fields.required "secretKey" secretKeyCodec)
    (by decide)).object.refine
      (fun keys : ClientId × Vector UInt8 32 =>
        if SessionCrypto.clientId lib ⟨keys.2⟩ = keys.1 then .ok ⟨keys.2⟩
        else .error "persisted session public and secret keys do not match")
      (fun crypto => (crypto.clientId lib, crypto.secretKey)) (fun _ => id)
      fun _ crypto => if_pos rfl

/-- The members of a saved bridge session. -/
abbrev HttpSessionParts (lib : Libraries) :=
  ((((SessionCrypto × ClientId) × HttpBridgeUrl lib) × WalletSessionState) ×
    Option RawAccountAddress) × Option String

def httpSessionFields : Fields (HttpSessionParts lib) :=
  (((((Fields.required "keyPair" (keyPairCodec lib)).both (Fields.member "peerClientId")
    (of_decide_eq_true rfl)).both (Fields.member "bridgeUrl") (of_decide_eq_true rfl)).both
    (Fields.member "reducer") (of_decide_eq_true rfl)).both
    (Fields.nullable "connectedAddress") (of_decide_eq_true rfl)).both
    (Fields.nullable "lastBridgeEventId") (of_decide_eq_true rfl)

def PersistedHttpSession.parts (session : PersistedHttpSession lib) : HttpSessionParts lib :=
  (((((session.crypto, session.peerClientId), session.bridgeUrl), session.reducer),
    session.connectedAddress), session.lastBridgeEventId)

def PersistedHttpSession.tryFrom (parts : HttpSessionParts lib) :
    Except String (PersistedHttpSession lib) :=
  let (((((crypto, peerClientId), bridgeUrl), reducer), connectedAddress), lastBridgeEventId) :=
    parts
  (PersistedHttpSession.new crypto peerClientId bridgeUrl reducer connectedAddress
    lastBridgeEventId).mapError fun _ => "invalid persisted session"

instance : Wire (PersistedHttpSession lib) where
  codec := httpSessionFields.object.refine PersistedHttpSession.tryFrom PersistedHttpSession.parts
    (fun _ => id) fun change session => by
      have keys : (keyPairCodec lib).refloat change = id := rfl
      simp [httpSessionFields, Fields.required, keys, PersistedHttpSession.parts,
        PersistedHttpSession.tryFrom, PersistedHttpSession.new, session.cursor, session.binding,
        Except.mapError]
  present _ := rfl

instance : Floatless (PersistedHttpSession lib) := ⟨fun _ => rfl⟩

end HttpSession

section Client

/-- The saved state of a client. -/
structure PersistedTonConnectClient (lib : Libraries) where
  session : PersistedHttpSession lib
  connectRequest : Option (ConnectRequest lib)
  /-- The embedded request as it stands in a link. -/
  embeddedRequest : Option String
  initialTraceId : Option TraceId

variable {lib : Libraries}

namespace PersistedTonConnectClient

def refloat (change : String → String) (client : PersistedTonConnectClient lib) :
    PersistedTonConnectClient lib :=
  { client with connectRequest := client.connectRequest.map (ConnectRequest.refloat change) }

def fields : Fields (PersistedTonConnectClient lib) :=
  ((((Fields.member "session").both (Fields.nullable "connectRequest")
    (of_decide_eq_true rfl)).both (Fields.nullable "embeddedRequest") (of_decide_eq_true rfl)).both
    (Fields.nullable "initialTraceId") (of_decide_eq_true rfl)).record
      (fun (((session, connectRequest), embeddedRequest), initialTraceId) =>
        ⟨session, connectRequest, embeddedRequest, initialTraceId⟩)
      (fun client => (((client.session, client.connectRequest), client.embeddedRequest),
        client.initialTraceId))
      refloat fun change client => by
        simp [refloat]
        rfl

/-- A request of a link is there exactly while the session is pending, an embedded request only
beside it, and it can be decoded. -/
def validate (client : PersistedTonConnectClient lib) : Except String Unit := do
  let pending := client.session.reducer.phase == .pendingConnect
  if pending != client.connectRequest.isSome ∨
      client.embeddedRequest.isSome ∧ client.connectRequest.isNone then
    throw "persisted TON Connect client does not match its session phase"
  if client.embeddedRequest.any fun parameter =>
      (decodeEmbeddedRequestParam lib parameter).isNone then
    throw "invalid embedded TON Connect request"

end PersistedTonConnectClient

namespace TonConnectClient

def persisted (client : TonConnectClient lib) :
    Except TonConnectClientError (PersistedTonConnectClient lib) := do
  let session ← (PersistedHttpSession.new client.crypto client.peerClientId client.bridgeUrl
    client.reducer client.connectedAddress client.lastBridgeEventId).mapError .httpSession
  return {
    session
    connectRequest := client.connectRequest
    embeddedRequest := client.embeddedRequest.map encodeEmbeddedRequestParam
    initialTraceId := client.initialTraceId }

/-- The embedded request that a saved parameter stands for. -/
def restoreEmbedded : Option String → Except TonConnectClientError (Option (EmbeddedRequest lib))
  | none => .ok none
  | some parameter =>
    match decodeEmbeddedRequestParam lib parameter with
    | some request => .ok (some request)
    | none => .error .embeddedRequest

def restore (persisted : PersistedTonConnectClient lib) (maxEventBytes : NonZeroUsize)
    (messageTtlSeconds : NonZeroU32) (heartbeat : HeartbeatMode) :
    Except TonConnectClientError (TonConnectClient lib) := do
  let embeddedRequest ← restoreEmbedded persisted.embeddedRequest
  return {
    connectRequest := persisted.connectRequest
    embeddedRequest
    initialTraceId := persisted.initialTraceId
    peerClientId := persisted.session.peerClientId
    bridgeUrl := persisted.session.bridgeUrl
    maxEventBytes
    messageTtlSeconds
    heartbeat
    crypto := persisted.session.crypto
    reducer := persisted.session.reducer
    connectedAddress := persisted.session.connectedAddress
    lastBridgeEventId := persisted.session.lastBridgeEventId
    decoder := .new maxEventBytes }

end TonConnectClient

namespace IncomingRequest

def fields : Fields IncomingRequest :=
  (((Fields.member "request").both (Fields.nullable "traceId") (by decide)).both
    (Fields.member "closesSession") (by decide)).record
      (fun parts : (AppRequest × Option TraceId) × Bool => ⟨parts.1.1, parts.1.2, parts.2⟩)
      (fun incoming => ((incoming.request, incoming.traceId), incoming.closesSession))
      (fun _ => id) fun change incoming => by simp

variable (lib)

/-- The text a pending request is saved as. -/
def persisted (incoming : IncomingRequest) : String :=
  lib.printJson (fields.object.encode incoming)

def restore (text : String) : Except TonConnectClientError IncomingRequest := do
  let json ← (lib.parseJson (utf8 text)).elim (.error .pendingRequestJson) .ok
  let incoming ← (fields.object.decode json).mapError fun _ => .pendingRequestJson
  if incoming.request.isDisconnect lib != incoming.closesSession then
    throw .invalidPendingRequest
  return incoming

end IncomingRequest

section Restart

/-- A client that was saved as a JSON text and read back. -/
def TonConnectClient.restart (client : TonConnectClient lib) (maxEventBytes : NonZeroUsize)
    (messageTtlSeconds : NonZeroU32) (heartbeat : HeartbeatMode) :
    Option (TonConnectClient lib) := do
  let persisted ← client.persisted.toOption
  let json ← lib.parseJson (utf8 (lib.printJson
    (PersistedTonConnectClient.fields.object.encode persisted)))
  let persisted ← (PersistedTonConnectClient.fields.object.decode json).toOption
  persisted.validate.toOption
  (restore persisted maxEventBytes messageTtlSeconds heartbeat).toOption

/-- What a restart makes of a client: the stream-local state is new and numbers in the link's
request may be spelt differently. -/
def TonConnectClient.restarted (client : TonConnectClient lib) (maxEventBytes : NonZeroUsize)
    (messageTtlSeconds : NonZeroU32) (heartbeat : HeartbeatMode) : TonConnectClient lib :=
  { client with
    connectRequest := client.connectRequest.map (ConnectRequest.refloat lib.reread)
    maxEventBytes
    messageTtlSeconds
    heartbeat
    decoder := .new maxEventBytes }

theorem parseJson_printJson_eq {json read : Json}
    (parsed : lib.parseJson (utf8 (lib.printJson json)) = some read) :
    read = json.mapFloats lib.reread := by
  rw [lib.parseJson_printJson] at parsed
  split at parsed
  · exact (Option.some.inj parsed).symm
  · cases parsed

variable {client after : TonConnectClient lib} {maxEventBytes : NonZeroUsize}
  {messageTtlSeconds : NonZeroU32} {heartbeat : HeartbeatMode}

theorem TonConnectClient.persisted_ok {saved : PersistedTonConnectClient lib}
    (ok : client.persisted = .ok saved) :
    saved.session.parts = (((((client.crypto, client.peerClientId), client.bridgeUrl),
        client.reducer), client.connectedAddress), client.lastBridgeEventId) ∧
      saved.connectRequest = client.connectRequest ∧
      saved.embeddedRequest = client.embeddedRequest.map encodeEmbeddedRequestParam ∧
      saved.initialTraceId = client.initialTraceId := by
  obtain ⟨session, made, rest⟩ := except_bind_eq_ok.mp ok
  cases rest
  have new := except_mapError_eq_ok.mp made
  unfold PersistedHttpSession.new at new
  split at new
  · split at new
    · cases new
      exact ⟨rfl, rfl, rfl, rfl⟩
    · cases new
  · cases new

theorem TonConnectClient.restoreEmbedded_encode (request : Option (EmbeddedRequest lib)) :
    restoreEmbedded (request.map encodeEmbeddedRequestParam) = .ok request := by
  cases request with
  | none => rfl
  | some request => simp only [Option.map_some, restoreEmbedded, decodeEmbeddedRequestParam_encode]

/-- Restoring what was saved gives the client back. -/
theorem TonConnectClient.restore_refloat {saved : PersistedTonConnectClient lib}
    (ok : client.persisted = .ok saved) :
    restore (saved.refloat lib.reread) maxEventBytes messageTtlSeconds heartbeat =
      .ok (client.restarted maxEventBytes messageTtlSeconds heartbeat) := by
  obtain ⟨session, request, embedded, trace⟩ := persisted_ok ok
  simp only [PersistedHttpSession.parts, Prod.mk.injEq] at session
  obtain ⟨⟨⟨⟨⟨crypto, peer⟩, bridge⟩, reducer⟩, address⟩, cursor⟩ := session
  have decoded : restoreEmbedded (saved.refloat lib.reread).embeddedRequest =
      .ok client.embeddedRequest :=
    (congrArg restoreEmbedded embedded).trans (restoreEmbedded_encode _)
  refine except_bind_eq_ok.mpr ⟨client.embeddedRequest, decoded, ?_⟩
  simp only [PersistedTonConnectClient.refloat, crypto, peer, bridge, reducer, address, cursor,
    request, trace]
  rfl

theorem TonConnectClient.restart_eq
    (ok : client.restart maxEventBytes messageTtlSeconds heartbeat = some after) :
    after = client.restarted maxEventBytes messageTtlSeconds heartbeat := by
  simp only [restart, Option.bind_eq_bind, Option.bind_eq_some_iff] at ok
  obtain ⟨saved, stored, json, parsed, read, decoded, _, -, restored⟩ := ok
  have stored := except_toOption_eq_some.mp stored
  have decoded := except_toOption_eq_some.mp decoded
  rw [parseJson_printJson_eq parsed, Codec.decode_encode] at decoded
  cases decoded
  have restored := except_toOption_eq_some.mp restored
  exact Except.ok.inj (restored.symm.trans (restore_refloat stored))

end Restart

end Client

end WalletEngine
