import WalletEngine.TonConnect.Rpc

/-! # The event stream of a bridge

The incremental decoder of `text/event-stream` and the encrypted messages it yields. A
failed call loses the messages that it had already decoded from its chunk, and keeps the
bytes behind the failing line for the next call. -/

namespace WalletEngine

section Messages

variable (lib : Libraries)

/-- An encrypted message delivered by the bridge. -/
structure BridgeMessage where
  sender : ClientId
  message : Base64Value lib
  traceId : Option TraceId
  extensions : List (String × Json)

/-- A message with the cursor to resume the stream after it. -/
structure BridgeSseMessage where
  eventId : Option String
  message : BridgeMessage lib

variable {lib}

/-- Other members than the known ones are kept without being interpreted. -/
def BridgeMessage.read (json : Json) : Except String (BridgeMessage lib) :=
  match json with
  | .obj members => do
      let field ← json.structFields ["from", "message", "trace_id"]
      let sender ← readMember "from" field
      let message : Base64Value lib ← readMember "message" field
      let traceId ← readMaybe "trace_id" field
      if message.text = "" then .error "bridge message must not be empty"
      else return {
        sender, message, traceId
        extensions := members.filter fun member =>
          !(["from", "message", "trace_id"].contains member.1) }
  | _ => .error "invalid type"

end Messages

section Crypto

/-- The key pair of a session. The public key is a function of the secret one. -/
structure SessionCrypto where
  secretKey : Vector UInt8 32
  deriving DecidableEq

variable {lib : Libraries}

variable (lib) in
def SessionCrypto.clientId (crypto : SessionCrypto) : ClientId :=
  ⟨lib.publicKey crypto.secretKey⟩

variable (lib) in
/-- The ciphertext behind the nonce it was made with; `none` when no nonce could be drawn. -/
def SessionCrypto.encrypt (crypto : SessionCrypto) (nonce : Option (Vector UInt8 24))
    (peer : ClientId) (plaintext : List UInt8) : Option (List UInt8) :=
  nonce.bind fun nonce =>
    (lib.boxEncrypt crypto.secretKey peer.bytes nonce plaintext).map (nonce.toList ++ ·)

variable (lib) in
/-- Authenticate and decrypt a nonce with its ciphertext. -/
def SessionCrypto.decrypt (crypto : SessionCrypto) (peer : ClientId) (encrypted : List UInt8) :
    Option (List UInt8) :=
  if long : 24 + 16 ≤ encrypted.length then
    lib.boxDecrypt crypto.secretKey peer.bytes
      ⟨(encrypted.take 24).toArray, by simp; omega⟩ (encrypted.drop 24)
  else none

/-- The plaintext of a message from the fixed peer. -/
def BridgeMessage.unseal (message : BridgeMessage lib) (crypto : SessionCrypto)
    (expectedPeer : ClientId) : Option (List UInt8) :=
  if message.sender ≠ expectedPeer then none
  else (lib.decodeBase64 message.message.text).bind (crypto.decrypt lib expectedPeer)

/-- The request in a message from the fixed peer. -/
def BridgeMessage.decrypt (message : BridgeMessage lib) (crypto : SessionCrypto)
    (expectedPeer : ClientId) : Option AppRequest :=
  (message.unseal crypto expectedPeer).bind fun plaintext =>
    (lib.parseJson plaintext).bind fun json => (Wire.codec.decode json).toOption

end Crypto

section Decoder

variable (lib : Libraries)

/-- A size of at least one byte. -/
abbrev NonZeroUsize := {size : Nat // 0 < size}

inductive HttpBridgeError where
  | eventTooLarge | invalidSseUtf8 | invalidMessage (reason : String)
  deriving DecidableEq

structure BridgeSseDecoder where
  pending : List UInt8
  eventType : Option String
  dataLines : List String
  lastEventId : Option String
  currentEventBytes : Nat
  maxEventBytes : NonZeroUsize
  deriving DecidableEq

namespace BridgeSseDecoder

def new (maxEventBytes : NonZeroUsize) : BridgeSseDecoder where
  pending := []
  eventType := none
  dataLines := []
  lastEventId := none
  currentEventBytes := 0
  maxEventBytes

/-- The name and the value of a line; one space after the colon is not part of the value. -/
def lineField (line : List Char) : List Char × List Char :=
  match splitOnce ':' line with
  | some (field, ' ' :: value) => (field, value)
  | some (field, value) => (field, value)
  | none => (line, [])

def processLine (decoder : BridgeSseDecoder) (line : List Char) : BridgeSseDecoder :=
  if line.head? = some ':' then decoder
  else
    let (field, value) := lineField line
    if field = "event".toList then { decoder with eventType := some (String.ofList value) }
    else if field = "data".toList then
      { decoder with dataLines := decoder.dataLines ++ [String.ofList value] }
    else if field = "id".toList ∧ '\x00' ∉ value then
      { decoder with lastEventId := some (String.ofList value) }
    else decoder

/-- The event is over: its type and data are taken. -/
def cleared (decoder : BridgeSseDecoder) : BridgeSseDecoder :=
  { decoder with eventType := none, dataLines := [] }

variable {lib} in
/-- The message of the event that ends; heartbeats and events of other types have none. -/
def dispatch (decoder : BridgeSseDecoder) :
    Except HttpBridgeError (Option (BridgeSseMessage lib)) :=
  let eventType := decoder.eventType.getD "message"
  let data := "\n".intercalate decoder.dataLines
  if eventType = "heartbeat" ∨ data = "" ∨ data = "heartbeat" then .ok none
  else if eventType ≠ "message" then .ok none
  else match lib.parseJson (utf8 data) with
    | some json =>
      ((BridgeMessage.read json).mapError HttpBridgeError.invalidMessage).map fun message =>
        some ⟨decoder.lastEventId, message⟩
    | none => .error (.invalidMessage "invalid JSON")

/-- A line without one trailing carriage return. -/
def stripCr (line : List UInt8) : List UInt8 :=
  if line.getLast? = some 13 then line.dropLast else line

def charge (decoder : BridgeSseDecoder) (line : List UInt8) : BridgeSseDecoder :=
  { decoder with currentEventBytes := decoder.currentEventBytes + line.length + 1 }

variable {lib} in
/-- Take one complete line; a blank one ends the event. -/
def takeLine (decoder : BridgeSseDecoder) (bytes : List UInt8) :
    BridgeSseDecoder × Except HttpBridgeError (Option (BridgeSseMessage lib)) :=
  let line := stripCr bytes
  let charged := decoder.charge line
  if charged.maxEventBytes.1 < charged.currentEventBytes then (charged, .error .eventTooLarge)
  else match String.fromUTF8? ⟨line.toArray⟩ with
    | none => (charged, .error .invalidSseUtf8)
    | some text =>
      if text = "" then
        match charged.dispatch with
        | .error error => (charged.cleared, .error error)
        | .ok message => ({ charged.cleared with currentEventBytes := 0 }, .ok message)
      else (charged.processLine text.toList, .ok none)

variable {lib} in
/-- Take the complete lines of the buffered bytes, `line` being the bytes since the last line
break. The bytes of an unfinished line are charged too. -/
def drain (decoder : BridgeSseDecoder) (line : List UInt8) :
    List UInt8 → BridgeSseDecoder × Except HttpBridgeError (List (BridgeSseMessage lib))
  | [] =>
    ({ decoder with pending := line },
      if decoder.maxEventBytes.1 < decoder.currentEventBytes + line.length then
        .error .eventTooLarge
      else .ok [])
  | byte :: bytes =>
    if byte = 10 then
      match decoder.takeLine line with
      | (next, .error error) => ({ next with pending := bytes }, .error error)
      | (next, .ok message) =>
        let (final, messages) := next.drain [] bytes
        (final, messages.map (message.toList ++ ·))
    else decoder.drain (line ++ [byte]) bytes

variable {lib} in
/-- Append a chunk and return every message that it completes. -/
def push (decoder : BridgeSseDecoder) (chunk : List UInt8) :
    BridgeSseDecoder × Except HttpBridgeError (List (BridgeSseMessage lib)) :=
  decoder.drain [] (decoder.pending ++ chunk)

end BridgeSseDecoder

end Decoder

end WalletEngine
