import WalletEngine.Data.Trace
import WalletEngine.TonConnect.Sample
import WalletEngine.TonConnect.Storage

/-! # Replay safety of a TON Connect session

Whatever the bridge sends, in whatever pieces and however often, and however often the
client is restarted from what it saved: the requests it hands out have increasing numbers,
come from the peer, and lie between the connect event and the end of the session. -/

namespace WalletEngine

section Life

variable (lib : Libraries)

/-- What the life of a client consists of. -/
inductive ClientOperation where
  | approve (nonce : Option (Vector UInt8 24)) (items : List (ConnectItemReply lib))
      (device : DeviceInfo) (response : Option EmbeddedResponse)
  | reject (nonce : Option (Vector UInt8 24)) (code : ConnectEventErrorCode) (message : String)
  | disconnect (nonce : Option (Vector UInt8 24)) (traceId : Option TraceId)
  | subscribe
  | ingest (chunk : List UInt8)
  | restart (maxEventBytes : NonZeroUsize) (messageTtlSeconds : NonZeroU32)
      (heartbeat : HeartbeatMode)

/-- What is recorded: the events the client prepared, and each request it handed out with the
decoder and the chunk that it came from. -/
inductive ClientEntry where
  | connected
  | closed
  | delivered (decoder : BridgeSseDecoder) (chunk : List UInt8) (incoming : IncomingRequest)
  deriving DecidableEq

def ClientEntry.isDelivered : ClientEntry → Bool
  | .delivered _ _ _ => true
  | _ => false

/-- The session ends with a disconnect event, a connect error or a request to disconnect. -/
def ClientEntry.closes : ClientEntry → Bool
  | .connected => false
  | .closed => true
  | .delivered _ _ incoming =>
    incoming.request.method == "disconnect" && incoming.request.params.isEmpty

/-- The number that a request identifier denotes. -/
def ClientEntry.requestNumber : ClientEntry → Option Nat
  | .delivered _ _ incoming => some (decimalValue incoming.request.id.toList)
  | _ => none

variable {lib}

/-- The entries and the next state of an operation; a failed restart ends the life. -/
def ClientOperation.perform (client : TonConnectClient lib) :
    ClientOperation lib → Option (List ClientEntry × TonConnectClient lib)
  | .approve nonce items device response => some (Call.record (fun _ => [.connected])
      ((TonConnectClient.approveConnect nonce items device response).run client))
  | .reject nonce code message => some (Call.record (fun _ => [.closed])
      ((TonConnectClient.rejectConnect nonce code message).run client))
  | .disconnect nonce traceId => some (Call.record (fun _ => [.closed])
      ((TonConnectClient.disconnect nonce traceId).run client))
  | .subscribe => some (Call.record (fun _ => [])
      (TonConnectClient.beginEventsSubscription.run client))
  | .ingest chunk => some (Call.record (List.map (.delivered client.decoder chunk))
      ((TonConnectClient.ingestSseChunk chunk).run client))
  | .restart maxEventBytes messageTtlSeconds heartbeat =>
    (client.restart maxEventBytes messageTtlSeconds heartbeat).map ([], ·)

def ClientStep (before : TonConnectClient lib) (entries : List ClientEntry)
    (after : TonConnectClient lib) : Prop :=
  ∃ operation : ClientOperation lib, operation.perform before = some (entries, after)

end Life

section Safety

variable {lib : Libraries}

/-- Nothing is delivered twice, out of turn or from anyone else. -/
structure ReplaySafe (lib : Libraries) (crypto : SessionCrypto) (peer : ClientId)
    (entries : List ClientEntry) : Prop where
  numeric : ∀ decoder chunk incoming, .delivered decoder chunk incoming ∈ entries →
    validDecimal incoming.request.id = true
  increasing : (entries.filterMap ClientEntry.requestNumber).Pairwise (· < ·)
  authentic : ∀ decoder chunk incoming, .delivered decoder chunk incoming ∈ entries →
    ∃ events : List (BridgeSseMessage lib), (decoder.push chunk).2 = .ok events ∧
      ∃ event ∈ events, event.message.decrypt crypto peer = some incoming.request
  afterConnect : ∀ front, front <+: entries → front.any ClientEntry.isDelivered = true →
    ClientEntry.connected ∈ front
  untilClosed : entries.Pairwise fun earlier later =>
    earlier.closes = true → later.isDelivered = false

/-- The record of a life agrees with the state of the client. -/
structure Agrees (crypto : SessionCrypto) (peer : ClientId) (entries : List ClientEntry)
    (client : TonConnectClient lib) : Prop where
  crypto_eq : client.crypto = crypto
  peer_eq : client.peerClientId = peer
  safe : ReplaySafe lib crypto peer entries
  connected : client.reducer.phase = .connected → ClientEntry.connected ∈ entries
  opened : client.reducer.phase ≠ .disconnected → ∀ entry ∈ entries, entry.closes = false
  baseline : ∀ entry ∈ entries, ∀ number ∈ entry.requestNumber,
    ∃ last ∈ client.reducer.lastRequestId, number ≤ last.value

variable {crypto : SessionCrypto} {peer : ClientId} {entries : List ClientEntry}

theorem ReplaySafe.nil : ReplaySafe lib crypto peer [] where
  numeric _ _ _ absent := nomatch absent
  increasing := List.Pairwise.nil
  authentic _ _ _ absent := nomatch absent
  afterConnect front isPrefix delivered := by
    rw [List.prefix_nil.mp isPrefix] at delivered
    cases delivered
  untilClosed := List.Pairwise.nil

/-- An event of the wallet may be recorded at any time. -/
theorem ReplaySafe.event (safe : ReplaySafe lib crypto peer entries) {entry : ClientEntry}
    (quiet : entry.isDelivered = false) : ReplaySafe lib crypto peer (entries ++ [entry]) where
  numeric decoder chunk incoming listed := by
    rcases List.mem_append.mp listed with earlier | now
    · exact safe.numeric decoder chunk incoming earlier
    · rw [← List.mem_singleton.mp now] at quiet
      cases quiet
  increasing := by
    have none : entry.requestNumber = none := by
      cases entry with
      | delivered => cases quiet
      | _ => rfl
    rw [List.filterMap_append, List.filterMap_cons_none none, List.filterMap_nil, List.append_nil]
    exact safe.increasing
  authentic decoder chunk incoming listed := by
    rcases List.mem_append.mp listed with earlier | now
    · exact safe.authentic decoder chunk incoming earlier
    · rw [← List.mem_singleton.mp now] at quiet
      cases quiet
  afterConnect front isPrefix delivered := by
    rcases List.prefix_concat_iff.mp isPrefix with rfl | earlier
    · rw [List.any_append, List.any_cons, quiet, List.any_nil, Bool.or_false, Bool.or_false]
        at delivered
      exact List.mem_append_left _ (safe.afterConnect entries List.prefix_rfl delivered)
    · exact safe.afterConnect front earlier delivered
  untilClosed := by
    refine List.pairwise_append.mpr ⟨safe.untilClosed, List.pairwise_singleton _ _, ?_⟩
    intro earlier _ later now _
    rw [List.mem_singleton.mp now, quiet]

/-- A request may be recorded while the session is connected. -/
theorem ReplaySafe.deliver (safe : ReplaySafe lib crypto peer entries)
    {decoder : BridgeSseDecoder} {chunk : List UInt8} {incoming : IncomingRequest}
    (valid : validDecimal incoming.request.id = true)
    (newer : ∀ entry ∈ entries, ∀ number ∈ entry.requestNumber,
      number < decimalValue incoming.request.id.toList)
    (authentic : ∃ events : List (BridgeSseMessage lib), (decoder.push chunk).2 = .ok events ∧
      ∃ event ∈ events, event.message.decrypt crypto peer = some incoming.request)
    (connected : ClientEntry.connected ∈ entries)
    (opened : ∀ entry ∈ entries, entry.closes = false) :
    ReplaySafe lib crypto peer (entries ++ [.delivered decoder chunk incoming]) where
  numeric decoder chunk other listed := by
    rcases List.mem_append.mp listed with earlier | now
    · exact safe.numeric decoder chunk other earlier
    · cases List.mem_singleton.mp now
      exact valid
  increasing := by
    rw [List.filterMap_append]
    refine List.pairwise_append.mpr ⟨safe.increasing, List.pairwise_singleton _ _, ?_⟩
    intro number listed last now
    obtain ⟨entry, earlier, found⟩ := List.mem_filterMap.mp listed
    rw [List.mem_singleton.mp now]
    exact newer entry earlier number found
  authentic decoder chunk other listed := by
    rcases List.mem_append.mp listed with earlier | now
    · exact safe.authentic decoder chunk other earlier
    · cases List.mem_singleton.mp now
      exact authentic
  afterConnect front isPrefix delivered := by
    rcases List.prefix_concat_iff.mp isPrefix with rfl | earlier
    · exact List.mem_append_left _ connected
    · exact safe.afterConnect front earlier delivered
  untilClosed := by
    refine List.pairwise_append.mpr ⟨safe.untilClosed, List.pairwise_singleton _ _, ?_⟩
    intro earlier listed later _ closes
    rw [opened earlier listed] at closes
    cases closes

section Preserved

variable {client after : TonConnectClient lib}

/-- What only concerns the stream leaves the agreement alone. -/
theorem Agrees.of_same (agrees : Agrees crypto peer entries client)
    (crypto_eq : after.crypto = client.crypto) (peer_eq : after.peerClientId = client.peerClientId)
    (reducer_eq : after.reducer = client.reducer) : Agrees crypto peer entries after where
  crypto_eq := crypto_eq.trans agrees.crypto_eq
  peer_eq := peer_eq.trans agrees.peer_eq
  safe := agrees.safe
  connected phase := agrees.connected (reducer_eq ▸ phase)
  opened phase := agrees.opened (reducer_eq ▸ phase)
  baseline := by rw [reducer_eq]; exact agrees.baseline

/-- The record grows by an event of the wallet; the baseline stays. -/
theorem Agrees.baseline_event (agrees : Agrees crypto peer entries client) {entry : ClientEntry}
    (quiet : entry.requestNumber = none)
    (same : after.reducer.lastRequestId = client.reducer.lastRequestId) :
    ∀ other ∈ entries ++ [entry], ∀ number ∈ other.requestNumber,
      ∃ last ∈ after.reducer.lastRequestId, number ≤ last.value := by
  rw [same]
  intro other listed number found
  rcases List.mem_append.mp listed with earlier | now
  · exact agrees.baseline other earlier number found
  · rw [List.mem_singleton.mp now, quiet] at found
    cases found

theorem Agrees.connect (agrees : Agrees crypto peer entries client)
    {transition : WalletSessionState.PreparedWalletEvent}
    (prepared : client.reducer.prepareEvent .connect = .ok transition)
    (crypto_eq : after.crypto = client.crypto) (peer_eq : after.peerClientId = client.peerClientId)
    (reducer_eq : after.reducer = transition.nextState) :
    Agrees crypto peer (entries ++ [.connected]) after where
  crypto_eq := crypto_eq.trans agrees.crypto_eq
  peer_eq := peer_eq.trans agrees.peer_eq
  safe := agrees.safe.event rfl
  connected _ := List.mem_append_right _ (List.mem_singleton_self _)
  opened _ entry listed := by
    obtain ⟨phase, allowed, -⟩ := WalletSessionState.prepareEvent_ok prepared
    obtain ⟨pending, -⟩ := WalletSessionState.nextPhase_connect allowed
    rcases List.mem_append.mp listed with earlier | now
    · exact agrees.opened (by rw [pending]; decide) entry earlier
    · rw [List.mem_singleton.mp now]
      rfl
  baseline := by
    obtain ⟨-, -, -, -, same, -⟩ := WalletSessionState.prepareEvent_ok prepared
    exact agrees.baseline_event rfl (by rw [reducer_eq, same])

theorem Agrees.close (agrees : Agrees crypto peer entries client) {kind : WalletEventKind}
    {transition : WalletSessionState.PreparedWalletEvent}
    (prepared : client.reducer.prepareEvent kind = .ok transition) (closing : kind ≠ .connect)
    (crypto_eq : after.crypto = client.crypto) (peer_eq : after.peerClientId = client.peerClientId)
    (reducer_eq : after.reducer = transition.nextState) :
    Agrees crypto peer (entries ++ [.closed]) after := by
  obtain ⟨phase, allowed, -, next, same, -⟩ := WalletSessionState.prepareEvent_ok prepared
  have ended : after.reducer.phase = .disconnected := by
    rw [reducer_eq, next, WalletSessionState.nextPhase_closing allowed closing]
  exact {
    crypto_eq := crypto_eq.trans agrees.crypto_eq
    peer_eq := peer_eq.trans agrees.peer_eq
    safe := agrees.safe.event rfl
    connected := fun phase => by rw [ended] at phase; cases phase
    opened := fun phase => absurd ended phase
    baseline := agrees.baseline_event rfl (by rw [reducer_eq, same]) }

/-- One event of the stream: it may deliver a request. -/
theorem Agrees.acceptEvent (agrees : Agrees crypto peer entries client)
    {decoder : BridgeSseDecoder} {chunk : List UInt8} {events : List (BridgeSseMessage lib)}
    (decoded : (decoder.push chunk).2 = .ok events) {event : BridgeSseMessage lib}
    (listed : event ∈ events) :
    Agrees crypto peer
      (entries ++ (client.acceptEvent event).2.toList.map (.delivered decoder chunk))
      (client.acceptEvent event).1 := by
  rcases client.acceptEvent_cases event with passed | ⟨request, prepared, decrypted, accepted, done⟩
  · rw [passed, Option.toList_none, List.map_nil, List.append_nil]
    exact agrees.of_same rfl rfl rfl
  · obtain ⟨connected, parsed, newer, closes, phase, last, -⟩ :=
      WalletSessionState.prepareRequest_ok accepted
    have number := RpcRequestId.fromStr_value parsed
    have earlier : ∀ entry ∈ entries, ∀ n ∈ entry.requestNumber,
        n < decimalValue request.id.toList := by
      intro entry recorded n found
      obtain ⟨baseline, stored, le⟩ := agrees.baseline entry recorded n found
      have lt := RpcRequestId.lt_iff.mp (newer baseline stored)
      omega
    rw [agrees.crypto_eq, agrees.peer_eq] at decrypted
    rw [done, Option.toList_some, List.map_singleton]
    refine ⟨agrees.crypto_eq, agrees.peer_eq, ?_, ?_, ?_, ?_⟩
    · exact agrees.safe.deliver (RpcRequestId.validDecimal_of_fromStr parsed) earlier
        ⟨events, decoded, event, listed, decrypted⟩ (agrees.connected connected)
        (agrees.opened (by rw [connected]; decide))
    · exact fun _ => List.mem_append_left _ (agrees.connected connected)
    · intro stays entry recorded
      rcases List.mem_append.mp recorded with before | now
      · exact agrees.opened (by rw [connected]; decide) entry before
      · -- a request to disconnect would have ended the session
        rw [List.mem_singleton.mp now]
        by_cases ends : prepared.closesSession = true
        · rw [ends, if_pos rfl] at phase
          exact absurd phase stays
        · rw [closes] at ends
          exact Bool.eq_false_iff.mpr ends
    · intro entry recorded n found
      refine ⟨prepared.requestId, last, ?_⟩
      rcases List.mem_append.mp recorded with before | now
      · have lt := earlier entry before n found
        omega
      · rw [List.mem_singleton.mp now] at found
        cases found
        exact number.ge

theorem Agrees.acceptEvents {decoder : BridgeSseDecoder} {chunk : List UInt8}
    {events remaining : List (BridgeSseMessage lib)}
    (decoded : (decoder.push chunk).2 = .ok events) (subset : remaining ⊆ events)
    (agrees : Agrees crypto peer entries client) :
    Agrees crypto peer
      (entries ++ (client.acceptEvents remaining).2.map (.delivered decoder chunk))
      (client.acceptEvents remaining).1 := by
  induction remaining generalizing client entries with
  | nil => simpa [TonConnectClient.acceptEvents] using agrees
  | cons event remaining ih =>
    obtain ⟨listed, rest⟩ := List.cons_subset.mp subset
    have first := agrees.acceptEvent decoded listed
    have others := ih rest first
    rw [List.append_assoc, ← List.map_append] at others
    exact others

theorem Agrees.perform (agrees : Agrees crypto peer entries client) {operation : ClientOperation lib}
    {more : List ClientEntry} (performed : operation.perform client = some (more, after)) :
    Agrees crypto peer (entries ++ more) after := by
  cases operation with
  | approve nonce items device response =>
    rcases Call.record_eq (Option.some.inj performed) with ⟨post, ran, rfl⟩ | ⟨error, failed, rfl⟩
    · obtain ⟨request, transition, account, -, prepared, -, -, -, rfl⟩ :=
        TonConnectClient.approveConnect_returns ran
      exact agrees.connect prepared rfl rfl rfl
    · rw [List.append_nil, TonConnectClient.atomic_approveConnect _ _ _ _ _ _ failed]
      exact agrees
  | reject nonce code message =>
    rcases Call.record_eq (Option.some.inj performed) with ⟨post, ran, rfl⟩ | ⟨error, failed, rfl⟩
    · obtain ⟨transition, prepared, rfl⟩ := TonConnectClient.rejectConnect_returns ran
      exact agrees.close prepared (by decide) rfl rfl rfl
    · rw [List.append_nil, TonConnectClient.atomic_rejectConnect _ _ _ _ _ failed]
      exact agrees
  | disconnect nonce traceId =>
    rcases Call.record_eq (Option.some.inj performed) with ⟨post, ran, rfl⟩ | ⟨error, failed, rfl⟩
    · obtain ⟨transition, prepared, rfl⟩ := TonConnectClient.disconnect_returns ran
      exact agrees.close prepared (by decide) rfl rfl rfl
    · rw [List.append_nil, TonConnectClient.atomic_disconnect _ _ _ _ failed]
      exact agrees
  | subscribe =>
    cases performed
    rw [List.append_nil]
    exact agrees.of_same rfl rfl rfl
  | ingest chunk =>
    rcases Call.record_eq (Option.some.inj performed) with
      ⟨requests, ran, rfl⟩ | ⟨error, failed, rfl⟩
    · obtain ⟨events, decoded, accepted⟩ := TonConnectClient.ingestSseChunk_returns.mp ran
      have pushed : Agrees crypto peer entries (client.pushed chunk) :=
        agrees.of_same rfl rfl rfl
      have taken := pushed.acceptEvents decoded (List.Subset.refl events)
      rwa [accepted] at taken
    · rw [List.append_nil, TonConnectClient.ingestSseChunk_fails failed]
      exact agrees.of_same rfl rfl rfl
  | restart maxEventBytes messageTtlSeconds heartbeat =>
    obtain ⟨restarted, ok, same⟩ := Option.map_eq_some_iff.mp performed
    cases same
    rw [List.append_nil, TonConnectClient.restart_eq ok]
    exact agrees.of_same rfl rfl rfl

end Preserved

/-- A fresh client with the keys it drew and the peer of its link. -/
theorem Agrees.fresh {link : ConnectLink lib} {config : TonConnectClientConfig lib}
    {secretKey : Vector UInt8 32} {client : TonConnectClient lib}
    (created : TonConnectClient.fromParsedLink link config (some secretKey) = .ok client) :
    Agrees ⟨secretKey⟩ link.clientId [] client := by
  obtain ⟨request, -, made⟩ := except_bind_eq_ok.mp created
  cases made
  exact ⟨rfl, rfl, .nil, nofun, (fun _ _ absent => nomatch absent), fun _ absent => nomatch absent⟩

/-- Over the whole life of a session, through every chunk, redelivery and restart, requests are
handed out in increasing order, only from the peer and only while the session is connected; and
identifiers are compared as the numbers they denote. -/
theorem requests_handed_out_once {link : ConnectLink lib} {config : TonConnectClientConfig lib}
    {secretKey : Vector UInt8 32} {client after : TonConnectClient lib}
    {entries : List ClientEntry}
    (created : TonConnectClient.fromParsedLink link config (some secretKey) = .ok client)
    (life : Recorded ClientStep client entries after) :
    ReplaySafe lib ⟨secretKey⟩ link.clientId entries ∧
      ∀ first second : RpcRequestId, first < second ↔ first.value < second.value := by
  refine ⟨?_, fun _ _ => RpcRequestId.lt_iff⟩
  have agrees : Agrees ⟨secretKey⟩ link.clientId entries after := by
    refine life.invariant (Agrees.fresh created) ?_
    rintro entries before more after agrees ⟨operation, performed⟩
    exact agrees.perform performed
  exact agrees.safe

section Sample

/-- The client of a link that asks for the address of the wallet. -/
def Sample.client : TonConnectClient Sample.libraries where
  connectRequest := some ⟨⟨"https://app.example/manifest.json", rfl⟩, [.tonAddr none], by simp⟩
  embeddedRequest := none
  initialTraceId := none
  peerClientId := Sample.peer
  bridgeUrl := ⟨Plain.parseUrl "https://bridge.example", rfl, by decide +kernel⟩
  maxEventBytes := ⟨1000, by decide⟩
  messageTtlSeconds := ⟨300, by decide⟩
  heartbeat := .message
  crypto := ⟨Sample.secretKey⟩
  reducer := .pendingConnect
  connectedAddress := none
  lastBridgeEventId := none
  decoder := .new ⟨1000, by decide⟩

/-- The account is shared, and the bridge delivers one request twice in two pieces. -/
theorem requests_handed_out_once_redelivered :
    ∃ (link : ConnectLink Sample.libraries) (config : TonConnectClientConfig Sample.libraries)
      (entries : List ClientEntry) (after : TonConnectClient Sample.libraries),
      TonConnectClient.fromParsedLink link config (some Sample.secretKey) = .ok Sample.client ∧
      Recorded ClientStep Sample.client entries after ∧
      entries.filterMap ClientEntry.requestNumber = [7] ∧
      ReplaySafe Sample.libraries ⟨Sample.secretKey⟩ link.clientId entries := by
  let account : TonAddressItemReply Sample.libraries :=
    ⟨⟨0, Vector.replicate 32 0⟩, ⟨"-239", by decide⟩, ⟨"", rfl⟩, Vector.replicate 32 9⟩
  let device : DeviceInfo := ⟨.browser, "wallet", "1.0", 2, []⟩
  let nonce : Vector UInt8 24 := Vector.replicate 24 1
  let connected := Sample.client.decided ⟨.connected, none, some 0, rfl⟩ (some account.address)
  obtain ⟨post, ran⟩ : ∃ post, (TonConnectClient.approveConnect (some nonce) [.tonAddress account]
      device none).run Sample.client = .ok post connected := by
    obtain ⟨post, posted⟩ := HttpBridgeUrl.preparePost_of_encrypt
      (show Sample.client.crypto.encrypt Sample.libraries (some nonce) _ _ = some _ from rfl)
    refine ⟨post, Call.get_bind_returns.mpr (Call.require_bind_returns.mpr ⟨_, rfl, ?_⟩)⟩
    refine Call.check_bind_returns.mpr ⟨⟨0, ⟨.connected, none, some 0, rfl⟩⟩, rfl, ?_⟩
    refine Call.check_bind_returns.mpr ⟨(), by decide +kernel, ?_⟩
    refine Call.require_bind_returns.mpr ⟨account, rfl, ?_⟩
    refine TonConnectClient.preparePost_bind_returns.mpr ⟨post, posted, ?_⟩
    exact Call.modify_bind_returns.mpr (Call.pure_returns.mpr ⟨rfl, rfl⟩)
  have step (before : TonConnectClient Sample.libraries) (chunk : String) :
      ClientStep before _ _ := ⟨.ingest (utf8 chunk), rfl⟩
  have life := ((Recorded.start.next
    (show ClientStep Sample.client [.connected] connected from
      ⟨.approve (some nonce) [.tonAddress account] device none, by
        rw [ClientOperation.perform, ran]; rfl⟩)).next (step _ "data: x\n\nda")).next
          (step _ "ta: x\n\n")
  let link : ConnectLink Sample.libraries :=
    ⟨Sample.peer, Sample.client.connectRequest, .back, none, none, [], fun _ listed => nomatch listed⟩
  let config : TonConnectClientConfig Sample.libraries :=
    ⟨Sample.client.bridgeUrl, ⟨1000, by decide⟩, ⟨300, by decide⟩, .message⟩
  have created : TonConnectClient.fromParsedLink link config (some Sample.secretKey) =
      .ok Sample.client := rfl
  exact ⟨link, config, _, _, created, life, by decide +kernel,
    (requests_handed_out_once created life).1⟩

end Sample

end Safety

end WalletEngine
