import WalletEngine.TonConnect.Sample
import WalletEngine.TonConnect.Session

/-! # Derived sessions

A server relays the messages of a session whose keys every device of the user derives. Requests
to sign data are shown as the texts that the dApp sent, and a signature is returned together with
the payload that was signed. -/

namespace WalletEngine

section Payloads

variable {lib : Libraries}

def SignDataPayload.validateContext (payload : SignDataPayload lib) (activeNetwork : NetworkId)
    (activeAccount : RawAccountAddress) : Except RequestContextError Unit :=
  match payload with
  | .text _ network sender | .binary _ network sender | .cell _ _ network sender =>
    validateNetworkAndAccount network sender activeNetwork activeAccount

def SignDataPayload.signingHash (services : SigningServices) (payload : SignDataPayload lib)
    (address : RawAccountAddress) (domain : String) (timestamp : UInt64) :
    Except SigningError (Vector UInt8 32) :=
  match payload with
  | .text words _ _ => signDataSigningHash services address domain timestamp (.text words)
  | .binary bytes _ _ => signDataSigningHash services address domain timestamp
      (.binary ((lib.decodeBase64 bytes.text).getD []))
  | .cell schema root _ _ => signDataSigningHash services address domain timestamp
      (.cell schema root.bytes)

/-- The network and the signer, which may be left out. -/
def constraintMembers (network sender : Option String) : List (String × Json) :=
  (network.toList.map fun text => ("network", .str text)) ++
    sender.toList.map fun text => ("from", .str text)

def SignDataPayload.toJson : SignDataPayload lib → Json
  | .text words network sender => .obj ([("type", .str "text"), ("text", .str words)] ++
      constraintMembers (network.map (·.text)) (sender.map (·.toText)))
  | .binary bytes network sender => .obj ([("type", .str "binary"), ("bytes", .str bytes.text)] ++
      constraintMembers (network.map (·.text)) (sender.map (·.toText)))
  | .cell schema root network sender => .obj ([("type", .str "cell"), ("schema", .str schema),
      ("cell", .str root.text)] ++
        constraintMembers (network.map (·.text)) (sender.map (·.toText)))

def SignDataResult.toJson (result : SignDataResult lib) : List (String × Json) :=
  [("signature", .str (lib.base64Encode false true result.signature.toList)),
    ("address", .str result.address.toText),
    ("timestamp", .num (.posInt result.timestamp.toNat result.timestamp.toNat_lt)),
    ("domain", .str result.domain), ("payload", result.payload.toJson)]

/-- The request that is shown, with every text of the payload. -/
def signDataRequest : SignDataPayload lib → TonConnectSignDataRequest
  | .text text network sender =>
    ⟨.text text, network.map (·.text), sender.map (·.toText)⟩
  | .binary bytes network sender =>
    ⟨.binary bytes.text, network.map (·.text), sender.map (·.toText)⟩
  | .cell schema cell network sender =>
    ⟨.cell schema cell.text, network.map (·.text), sender.map (·.toText)⟩

def maxSignDataDomainBytes : Nat := 259

def validateSignDataDomain (domain : String) : Except TonConnectSessionError Unit :=
  if domain ≠ "" ∧ (utf8 domain).length ≤ maxSignDataDomainBytes ∧
      ¬ domain.toList.any (fun c => isWhiteSpace c || isControl c) ∧
      ¬ domain.toList.any (['/', '?', '#', '@'].contains ·) then .ok ()
  else .error (.failed "TON Connect signData domain must be the dApp manifest host")

/-- Read an optional text again. -/
def revalidate {α : Type} (read : String → Option α) :
    Option String → Except TonConnectSessionError (Option α)
  | none => .ok none
  | some text => (read text).elim (.error .invalidValue) fun value => .ok (some value)

/-- The payload of checked constraints, with its encoded contents checked again. -/
def TonConnectSignDataPayload.rebuild (network : Option NetworkId)
    (sender : Option (AccountAddress lib)) :
    TonConnectSignDataPayload → Except TonConnectSessionError (SignDataPayload lib)
  | .text words => .ok (.text words network sender)
  | .binary bytes => ((ValidatedString.tryFrom bytes).map
      (SignDataPayload.binary · network sender)).elim (.error .invalidValue) .ok
  | .cell schema root => ((ValidatedString.tryFrom root).map
      (SignDataPayload.cell schema · network sender)).elim (.error .invalidValue) .ok

variable (lib) in
/-- The payload of a request that the host hands back, checked against the session. -/
def signDataPayload (request : TonConnectSignDataRequest) (network : NetworkId)
    (address : RawAccountAddress) (domain : String) :
    Except TonConnectSessionError (SignDataPayload lib) := do
  validateSignDataDomain domain
  let constraint ← revalidate ValidatedString.tryFrom request.network
  let sender ← revalidate AccountAddress.tryFrom request.sender
  let payload : SignDataPayload lib ← request.payload.rebuild constraint sender
  (payload.validateContext network address).mapError fun _ => .invalidValue
  return payload

end Payloads

section Session

/-- The digests, and the verification of signatures; none for an invalid key. -/
structure DerivedServices extends SigningServices where
  verifyStrict (publicKey digest : Vector UInt8 32) (signature : Vector UInt8 64) : Option Bool

structure TonConnectDerivedSession where
  crypto : SessionCrypto
  peer : ClientId
  signingPublicKey : Vector UInt8 32
  address : RawAccountAddress
  network : NetworkId

structure TonConnectDerivedRequest where
  request : TonConnectIncomingRequest
  requestId : Option Int
  deriving DecidableEq

structure TonConnectSignedData where
  request : TonConnectSignDataRequest
  domain : String
  timestamp : UInt64
  signature : List UInt8
  publicKey : List UInt8

/-- A canonical decimal that fits a signed 64-bit number. -/
def checkedRequestId (id : String) : Option Int :=
  (parseUnsigned (2 ^ 64) id).bind fun value =>
    if toString value ≠ id then none else if value < 2 ^ 63 then some value else none

namespace TonConnectDerivedSession

variable {lib : Libraries}

variable (lib) in
def decode (session : TonConnectDerivedSession) (request : AppRequest) (now : UInt64) :
    Except TonConnectSessionError TonConnectIncomingRequest :=
  let context : RequestContext := ⟨session.network, session.address, session.crypto.clientId lib⟩
  match request.decode lib with
  | .ok (.sendTransaction _ payload) =>
    decodeTransactionRequest context request.id request.method payload now .send
  | .ok (.signMessage _ _) => .ok (unsupportedRequest request.id request.method
      .methodNotSupported "Method is not supported")
  | .ok (.signData _ payload) =>
    match payload.validateContext session.network session.address with
    | .error error => .ok (unsupportedRequest request.id request.method .badRequest error.toText)
    | .ok () => .ok (.signData request.id request.method (signDataRequest payload))
  | .ok (.disconnect _) => .ok (.disconnect request.id request.method)
  | .error error => .ok (unsupportedRequest request.id request.method .badRequest error.toText)

variable (lib) in
/-- The request inside an encrypted body. -/
def openRequest (session : TonConnectDerivedSession) (body : List UInt8) :
    Except TonConnectSessionError AppRequest := do
  let plaintext ← (session.crypto.decrypt lib session.peer body).elim (.error .invalidValue) .ok
  let json ← (lib.parseJson plaintext).elim (.error .invalidValue) .ok
  ((Wire.codec : Codec AppRequest).decode json).mapError fun _ => .invalidValue

variable (lib) in
def decryptRequest (session : TonConnectDerivedSession) (body : List UInt8) (now : UInt64) :
    Except TonConnectSessionError TonConnectDerivedRequest := do
  let request ← session.openRequest lib body
  let shown ← session.decode lib request now
  return { request := shown, requestId := checkedRequestId request.id }

variable (lib) in
/-- The response to a request whose data was signed. -/
def signDataSuccess (services : DerivedServices) (session : TonConnectDerivedSession)
    (requestId : String) (signed : TonConnectSignedData) :
    Except TonConnectSessionError WalletResponse := do
  if signed.publicKey ≠ session.signingPublicKey.toList then
    throw (.failed "TON Connect signData was not signed with the session's signing key")
  let signature ← (if sized : signed.signature.length = 64 then
      .ok (⟨signed.signature.toArray, by simpa using sized⟩ : Vector UInt8 64)
    else .error (.failed "TON Connect signData signature must contain 64 bytes"))
  let payload ← signDataPayload lib signed.request session.network session.address signed.domain
  let result : SignDataResult lib :=
    ⟨signature, session.address, signed.timestamp, signed.domain, payload⟩
  let digest ← (payload.signingHash services.toSigningServices session.address signed.domain
    signed.timestamp).mapError fun _ => .invalidValue
  let verified ← (services.verifyStrict session.signingPublicKey digest signature).elim
    (.error .invalidValue) .ok
  if !verified then
    throw (.failed "TON Connect signData signature does not match its request")
  return .success (.object result.toJson) requestId

variable (lib) in
def encryptSignDataSuccess (services : DerivedServices) (session : TonConnectDerivedSession)
    (nonce : Option (Vector UInt8 24)) (requestId : String) (signed : TonConnectSignedData) :
    Except TonConnectSessionError (List UInt8) := do
  let response ← session.signDataSuccess lib services requestId signed
  (session.crypto.encrypt lib nonce session.peer (utf8 (lib.printJson response.toJson))).elim
    (.error .invalidValue) .ok

end TonConnectDerivedSession

end Session

section Echo

variable {lib : Libraries}

/-- The texts of data to sign as they stand in a document. -/
def sentSignData (json : Json) : Except String TonConnectSignDataRequest := do
  let (kind, rest) ← json.taggedText "type"
  if kind == "text" then do
    let field ← strictFields Json.structFields ["text", "network", "from"] rest
    return ⟨.text (← readMember "text" field), ← readMaybe "network" field,
      ← readMaybe "from" field⟩
  else if kind == "binary" then do
    let field ← strictFields Json.structFields ["bytes", "network", "from"] rest
    return ⟨.binary (← readMember "bytes" field), ← readMaybe "network" field,
      ← readMaybe "from" field⟩
  else if kind == "cell" then do
    let field ← strictFields Json.structFields ["schema", "cell", "network", "from"] rest
    return ⟨.cell (← readMember "schema" field) (← readMember "cell" field),
      ← readMaybe "network" field, ← readMaybe "from" field⟩
  else .error "unknown variant"

/-- A raw address is written without capitals; nothing is asked of another text. -/
def LowercaseRaw (text : String) : Prop :=
  (RawAccountAddress.fromStr text).isSome → ∀ c ∈ text.toList, c.isUpper = false

instance (text : String) : Decidable (LowercaseRaw text) :=
  inferInstanceAs (Decidable (_ → _))

theorem AccountAddress.toText_of_tryFrom {text : String} {address : AccountAddress lib}
    (read : AccountAddress.tryFrom text = some address) :
    address.toText = text ↔ LowercaseRaw text := by
  unfold tryFrom at read
  split at read
  · next raw found =>
      cases read
      rw [toText, RawAccountAddress.toText_of_fromStr found, LowercaseRaw, found]
      simp
  · next absent =>
      obtain ⟨friendly, found, rfl⟩ := Option.map_eq_some_iff.mp read
      have kept : friendly.text = text := by
        obtain ⟨_, same⟩ := Option.dite_none_right_eq_some.mp found
        rw [← Option.some.inj same]
      have free : LowercaseRaw text := by simp [LowercaseRaw, absent]
      exact iff_of_true kept free

section Fields

variable {field : String → Option Json} {name : String} {valid : String → Bool}

/-- A checked text is the text in the document. -/
theorem readMember_text {value : ValidatedString valid} (read : readMember name field = .ok value) :
    readMember name field = .ok value.text := by
  obtain ⟨json, found, decoded⟩ := Fields.decode_of_required read
  obtain ⟨text, rfl, accepted⟩ := Codec.str_of_decode_text decoded
  obtain ⟨_, same⟩ := Option.dite_none_right_eq_some.mp accepted
  change (Json.required (field name) >>= Codec.string.decode) = .ok value.text
  rw [found, ← Option.some.inj same]
  rfl

/-- An optional member spelt as a text, and the text that the document has. -/
theorem readMaybe_text {α : Type} {parse : String → Option α} {print : α → String}
    {law : ∀ value, parse (print value) = some value} {value : Option α}
    (read : (Fields.optional name (.text parse print law)).decode field = .ok value) :
    ∃ source : Option String, readMaybe name field = .ok source ∧
      ∀ keeps : String → Prop,
        (∀ text found, parse text = some found → (print found = text ↔ keeps text)) →
          (value.map print = source ↔ ∀ text ∈ source, keeps text) := by
  change Json.withDefault none _ (field name) = _ at read
  have strings : (readMaybe name field : Except String (Option String)) =
      Json.withDefault none (fun json => (Codec.string.decode json).map some) (field name) := rfl
  rw [strings]
  cases found : field name with
  | none =>
    rw [found] at read
    cases read
    exact ⟨none, rfl, fun keeps _ => by simp⟩
  | some json =>
    rw [found] at read
    obtain ⟨parsed, decoded, rfl⟩ := except_map_eq_ok.mp read
    obtain ⟨text, rfl, accepted⟩ := Codec.str_of_decode_text decoded
    refine ⟨some text, rfl, fun keeps spells => ?_⟩
    simpa using spells text parsed accepted

theorem readMaybe_network {network : Option NetworkId} (read : readMaybe name field = .ok network) :
    readMaybe name field = .ok (network.map (·.text)) := by
  obtain ⟨source, written, spells⟩ := readMaybe_text read
  have kept := (spells (fun _ => True) fun text found accepted => by
    obtain ⟨_, same⟩ := Option.dite_none_right_eq_some.mp accepted
    rw [← Option.some.inj same]
    simp).mpr fun _ _ => trivial
  rw [written, ← kept]

theorem readMaybe_sender {sender : Option (AccountAddress lib)}
    (read : readMaybe name field = .ok sender) :
    ∃ source, readMaybe name field = .ok source ∧
      (sender.map (·.toText) = source ↔ ∀ text ∈ source, LowercaseRaw text) := by
  obtain ⟨source, written, spells⟩ := readMaybe_text read
  exact ⟨source, written, spells LowercaseRaw fun _ _ => AccountAddress.toText_of_tryFrom⟩

end Fields

/-- An accepted document has texts, and the request that is shown has the same ones exactly when
its signer is no raw address with capitals. -/
theorem signDataRequest_read {json : Json} {payload : SignDataPayload lib}
    (read : SignDataPayload.read Json.taggedText Json.structFields json = .ok payload) :
    ∃ sent, sentSignData json = .ok sent ∧
      (signDataRequest payload = sent ↔ ∀ text ∈ sent.sender, LowercaseRaw text) := by
  obtain ⟨⟨kind, rest⟩, tagged, read⟩ := except_bind_eq_ok.mp read
  unfold sentSignData
  rw [tagged]
  change ∃ sent, (if kind == "text" then _ else _) = Except.ok sent ∧ _
  dsimp only at read
  split at read
  · next named =>
      rw [if_pos named]
      obtain ⟨field, fields, read⟩ := except_bind_eq_ok.mp read
      obtain ⟨words, text, read⟩ := except_bind_eq_ok.mp read
      obtain ⟨network, constraint, read⟩ := except_bind_eq_ok.mp read
      obtain ⟨sender, signer, read⟩ := except_bind_eq_ok.mp read
      cases read
      obtain ⟨source, written, spells⟩ := readMaybe_sender signer
      refine ⟨⟨.text words, network.map (·.text), source⟩, ?_, ?_⟩
      · rw [fields]
        simp only [bind, Except.bind, text, readMaybe_network constraint, written]
        rfl
      · simpa [signDataRequest] using spells
  · next other =>
      rw [if_neg other]
      split at read
      · next named =>
          rw [if_pos named]
          obtain ⟨field, fields, read⟩ := except_bind_eq_ok.mp read
          obtain ⟨bytes, encoded, read⟩ := except_bind_eq_ok.mp read
          obtain ⟨network, constraint, read⟩ := except_bind_eq_ok.mp read
          obtain ⟨sender, signer, read⟩ := except_bind_eq_ok.mp read
          cases read
          obtain ⟨source, written, spells⟩ := readMaybe_sender signer
          refine ⟨⟨.binary bytes.text, network.map (·.text), source⟩, ?_, ?_⟩
          · rw [fields]
            simp only [bind, Except.bind, readMember_text encoded, readMaybe_network constraint,
              written]
            rfl
          · simpa [signDataRequest] using spells
      · next other =>
          rw [if_neg other]
          split at read
          · next named =>
              rw [if_pos named]
              obtain ⟨field, fields, read⟩ := except_bind_eq_ok.mp read
              obtain ⟨schema, described, read⟩ := except_bind_eq_ok.mp read
              obtain ⟨root, encoded, read⟩ := except_bind_eq_ok.mp read
              obtain ⟨network, constraint, read⟩ := except_bind_eq_ok.mp read
              obtain ⟨sender, signer, read⟩ := except_bind_eq_ok.mp read
              cases read
              obtain ⟨source, written, spells⟩ := readMaybe_sender signer
              refine ⟨⟨.cell schema root.text, network.map (·.text), source⟩, ?_, ?_⟩
              · rw [fields]
                simp only [bind, Except.bind, described, readMember_text encoded,
                  readMaybe_network constraint, written]
                rfl
              · simpa [signDataRequest] using spells
          · cases read

/-- The texts of a written payload are those that were shown. -/
theorem sentSignData_toJson (payload : SignDataPayload lib) :
    sentSignData payload.toJson = .ok (signDataRequest payload) := by
  cases payload with
  | text words network sender => cases network <;> cases sender <;> rfl
  | binary bytes network sender => cases network <;> cases sender <;> rfl
  | cell schema root network sender => cases network <;> cases sender <;> rfl

theorem revalidate_map {α : Type} {parse : String → Option α} {print : α → String}
    (parse_print : ∀ value, parse (print value) = some value) (value : Option α) :
    revalidate parse (value.map print) = .ok value := by
  cases value with
  | none => rfl
  | some value =>
    rw [Option.map_some, revalidate, parse_print]
    rfl

/-- The request that was shown is read back as the payload it was made from. -/
theorem signDataPayload_signDataRequest {payload read : SignDataPayload lib} {network : NetworkId}
    {address : RawAccountAddress} {domain : String}
    (accepted : signDataPayload lib (signDataRequest payload) network address domain = .ok read) :
    read = payload := by
  have networks : ∀ constraint : Option NetworkId,
      revalidate ValidatedString.tryFrom (constraint.map (·.text)) = .ok constraint :=
    revalidate_map ValidatedString.tryFrom_text
  have senders : ∀ sender : Option (AccountAddress lib),
      revalidate AccountAddress.tryFrom (sender.map (·.toText)) = .ok sender :=
    revalidate_map AccountAddress.tryFrom_toText
  obtain ⟨_, -, accepted⟩ := except_bind_eq_ok.mp accepted
  obtain ⟨constraint, first, accepted⟩ := except_bind_eq_ok.mp accepted
  obtain ⟨sender, second, accepted⟩ := except_bind_eq_ok.mp accepted
  obtain ⟨rebuilt, third, accepted⟩ := except_bind_eq_ok.mp accepted
  obtain ⟨_, -, same⟩ := except_bind_eq_ok.mp accepted
  cases same
  cases payload with
  | text words givenNetwork givenSender =>
    cases (networks givenNetwork).symm.trans first
    cases (senders givenSender).symm.trans second
    exact (Except.ok.inj third).symm
  | binary bytes givenNetwork givenSender =>
    cases (networks givenNetwork).symm.trans first
    cases (senders givenSender).symm.trans second
    rw [signDataRequest, TonConnectSignDataPayload.rebuild, ValidatedString.tryFrom_text] at third
    exact (Except.ok.inj third).symm
  | cell schema root givenNetwork givenSender =>
    cases (networks givenNetwork).symm.trans first
    cases (senders givenSender).symm.trans second
    rw [signDataRequest, TonConnectSignDataPayload.rebuild, ValidatedString.tryFrom_text] at third
    exact (Except.ok.inj third).symm

namespace TonConnectDerivedSession

variable (lib) in
/-- The texts of the data to sign in an encrypted request. -/
def sentTexts (session : TonConnectDerivedSession) (body : List UInt8) :
    Option TonConnectSignDataRequest :=
  (session.openRequest lib body).toOption.bind fun request =>
    match request.params with
    | [payload] => (lib.parseJson (utf8 payload)).bind fun json => (sentSignData json).toOption
    | _ => none

/-- The texts in the payload of a response. -/
def echoedTexts (members : List (String × Json)) : Option TonConnectSignDataRequest :=
  (Json.lookup members "payload").bind fun payload => (sentSignData payload).toOption

variable (lib) in
/-- The request that is shown has the texts that were sent, and so has the payload of every
response that is encrypted for it. -/
def Echoes (session : TonConnectDerivedSession) (record sent : TonConnectSignDataRequest) : Prop :=
  record = sent ∧ ∀ (services : DerivedServices) (nonce : Option (Vector UInt8 24))
    (requestId : String) (signed : TonConnectSignedData) (response : List UInt8),
    signed.request = record →
    session.encryptSignDataSuccess lib services nonce requestId signed = .ok response →
      ∃ members, echoedTexts members = some sent ∧
        session.crypto.encrypt lib nonce session.peer (utf8 (lib.printJson
          (WalletResponse.success (.object members) requestId).toJson)) = some response

theorem not_signData_of_decodeTransactionRequest {context : RequestContext}
    {requestId method : String} {payload : TransactionPayload lib} {now : UInt64}
    {kind : TransactionRequestKind} {id named : String} {record : TonConnectSignDataRequest} :
    decodeTransactionRequest context requestId method payload now kind ≠
      .ok (.signData id named record) := by
  intro shown
  unfold decodeTransactionRequest at shown
  split at shown
  · cases shown
  · split at shown
    · cases shown
    · split at shown
      · cases shown
      · obtain ⟨messages, -, shown⟩ := except_bind_eq_ok.mp shown
        cases messages with
        | none => cases shown
        | some messages =>
          obtain ⟨operationId, -, shown⟩ := except_bind_eq_ok.mp shown
          cases kind <;> cases shown

theorem parse_of_parseSingleParameter {α : Type} {read : Json → Except String α} {method : String}
    {params : List String} {value : α}
    (parsed : parseSingleParameter lib read method params = .ok value) :
    ∃ text json, params = [text] ∧ lib.parseJson (utf8 text) = some json ∧ read json = .ok value := by
  unfold parseSingleParameter at parsed
  split at parsed
  · next text =>
      split at parsed
      · next json found => exact ⟨text, json, rfl, found, except_mapError_eq_ok.mp parsed⟩
      · cases parsed
  · cases parsed

/-- A request is shown as one to sign data only when its document was accepted. -/
theorem decode_signData {session : TonConnectDerivedSession} {request : AppRequest} {now : UInt64}
    {id method : String} {record : TonConnectSignDataRequest}
    (shown : session.decode lib request now = .ok (.signData id method record)) :
    ∃ text json, request.params = [text] ∧ lib.parseJson (utf8 text) = some json ∧
      ∃ payload : SignDataPayload lib,
        SignDataPayload.read Json.taggedText Json.structFields json = .ok payload ∧
          record = signDataRequest payload := by
  unfold decode at shown
  dsimp only at shown
  split at shown
  · exact absurd shown not_signData_of_decodeTransactionRequest
  · cases shown
  · next requestId payload decoded =>
      split at shown
      · cases shown
      · cases shown
        unfold AppRequest.decode at decoded
        split at decoded
        · obtain ⟨_, -, impossible⟩ := except_map_eq_ok.mp decoded
          cases impossible
        · split at decoded
          · obtain ⟨_, -, impossible⟩ := except_map_eq_ok.mp decoded
            cases impossible
          · split at decoded
            · obtain ⟨found, parsed, same⟩ := except_map_eq_ok.mp decoded
              cases same
              obtain ⟨text, json, single, document, read⟩ := parse_of_parseSingleParameter parsed
              exact ⟨text, json, single, document, payload, read, rfl⟩
            · split at decoded
              · split at decoded <;> cases decoded
              · cases decoded
  · cases shown
  · cases shown

/-- A response that is encrypted for a request that was shown has the texts of that request. -/
theorem echoedTexts_of_encryptSignDataSuccess {session : TonConnectDerivedSession}
    {services : DerivedServices} {nonce : Option (Vector UInt8 24)} {requestId : String}
    {signed : TonConnectSignedData} {response : List UInt8} {payload : SignDataPayload lib}
    (shown : signed.request = signDataRequest payload)
    (encrypted : session.encryptSignDataSuccess lib services nonce requestId signed =
      .ok response) :
    ∃ members, echoedTexts members = some signed.request ∧
      session.crypto.encrypt lib nonce session.peer (utf8 (lib.printJson
        (WalletResponse.success (.object members) requestId).toJson)) = some response := by
  obtain ⟨answer, built, boxed⟩ := except_bind_eq_ok.mp encrypted
  obtain ⟨-, built⟩ := except_guard_eq_ok.mp built
  obtain ⟨signature, -, built⟩ := except_bind_eq_ok.mp built
  obtain ⟨found, checked, built⟩ := except_bind_eq_ok.mp built
  obtain ⟨digest, -, built⟩ := except_bind_eq_ok.mp built
  obtain ⟨verified, -, built⟩ := except_bind_eq_ok.mp built
  obtain ⟨-, built⟩ := except_guard_eq_ok.mp built
  cases built
  rw [shown] at checked ⊢
  obtain rfl := signDataPayload_signDataRequest checked
  refine ⟨_, ?_, option_elim_eq_ok boxed⟩
  have found : Json.lookup (SignDataResult.toJson ⟨signature, session.address, signed.timestamp,
      signed.domain, found⟩) "payload" = some found.toJson := rfl
  rw [echoedTexts, found, Option.bind_some, sentSignData_toJson]
  rfl

section Plain

/-- A session of the account whose hash starts with the byte `ab`. -/
def plainSession : TonConnectDerivedSession :=
  ⟨⟨Sample.secretKey⟩, Sample.peer, Vector.replicate 32 9,
    ⟨0, ⟨(0xab :: List.replicate 31 0).toArray, rfl⟩⟩, ⟨"-239", rfl⟩⟩

/-- The text of a signer with the given spelling of its first byte. -/
def plainSender (first : String) : String :=
  "0:" ++ first ++ "00000000000000000000000000000000000000000000000000000000000000"

def plainDocument (first : String) : Json :=
  .obj [("type", .str "text"), ("text", .str "hello"), ("from", .str (plainSender first))]

def plainRequest (first : String) : AppRequest :=
  ⟨"signData", [plainLibraries.printJson (plainDocument first)], "1"⟩

def plainTexts (first : String) : TonConnectSignDataRequest :=
  ⟨.text "hello", none, some (plainSender first)⟩

theorem openRequest_boxed (session : TonConnectDerivedSession) (request : AppRequest) :
    session.openRequest plainLibraries (Sample.boxed request) = .ok request := by
  rw [openRequest, Sample.decrypt_boxed]
  refine except_bind_eq_ok.mpr ⟨_, rfl, ?_⟩
  rw [Sample.parseJson_request]
  refine except_bind_eq_ok.mpr ⟨_, rfl, ?_⟩
  rw [Sample.decode_request]
  rfl

theorem parseJson_plainDocument (first : String) :
    plainLibraries.parseJson (utf8 (plainLibraries.printJson (plainDocument first))) =
      some (plainDocument first) := by
  rw [plainLibraries.parseJson_printJson, if_pos (by
    simp [plainDocument, Json.depth, Json.depthMembers, jsonDepthLimit])]
  exact congrArg some (Json.mapFloats_eq_self _)

/-- What was sent has the spelling that was chosen. -/
theorem sentTexts_plain (first : String) :
    plainSession.sentTexts plainLibraries (Sample.boxed (plainRequest first)) =
      some (plainTexts first) := by
  simp only [sentTexts, openRequest_boxed, Except.toOption, Option.bind_some, plainRequest,
    parseJson_plainDocument]
  rfl

/-- The request is shown whenever its signer is the account of the session. -/
theorem decryptRequest_plain (first : String) (payload : SignDataPayload plainLibraries)
    (read : SignDataPayload.read Json.taggedText Json.structFields (plainDocument first) =
      .ok payload)
    (accepted : payload.validateContext plainSession.network plainSession.address = .ok ()) :
    plainSession.decryptRequest plainLibraries (Sample.boxed (plainRequest first)) 0 =
      .ok ⟨.signData "1" "signData" (signDataRequest payload), some 1⟩ := by
  have decoded : (plainRequest first).decode plainLibraries = .ok (.signData "1" payload) := by
    simp only [AppRequest.decode, plainRequest, String.reduceEq, ↓reduceIte, parseSingleParameter,
      parseJson_plainDocument, read]
    rfl
  have shown : plainSession.decode plainLibraries (plainRequest first) 0 =
      .ok (.signData "1" "signData" (signDataRequest payload)) := by
    rw [decode, decoded]
    dsimp only
    rw [accepted]
    rfl
  rw [decryptRequest, openRequest_boxed]
  refine except_bind_eq_ok.mpr ⟨_, rfl, except_bind_eq_ok.mpr ⟨_, shown, ?_⟩⟩
  have numbered : checkedRequestId "1" = some 1 := by decide +kernel
  exact congrArg (fun id => Except.ok (TonConnectDerivedRequest.mk _ id)) numbered

end Plain

/-- A request to sign data is echoed unchanged exactly when its signer, if it is a raw address, was
written without capitals. -/
theorem signData_echoes_iff {session : TonConnectDerivedSession} {body : List UInt8} {now : UInt64}
    {id method : String} {record : TonConnectSignDataRequest} {requestId : Option Int}
    (shown : session.decryptRequest lib body now = .ok ⟨.signData id method record, requestId⟩) :
    ∃ sent, session.sentTexts lib body = some sent ∧
      (session.Echoes lib record sent ↔ ∀ text ∈ sent.sender, LowercaseRaw text) := by
  obtain ⟨request, opened, shown⟩ := except_bind_eq_ok.mp shown
  obtain ⟨incoming, decoded, same⟩ := except_bind_eq_ok.mp shown
  cases same
  obtain ⟨text, json, single, document, payload, read, rfl⟩ := decode_signData decoded
  obtain ⟨sent, texts, spells⟩ := signDataRequest_read read
  refine ⟨sent, ?_, ?_⟩
  · simp only [sentTexts, opened, Except.toOption, Option.bind_some, single, document, texts]
  · rw [← spells]
    constructor
    · exact fun echoes => echoes.1
    · intro same
      refine ⟨same, fun services nonce requestId signed response asked encrypted => ?_⟩
      obtain ⟨members, echoed, boxed⟩ := echoedTexts_of_encryptSignDataSuccess asked encrypted
      exact ⟨members, by rw [echoed, asked, same], boxed⟩

theorem signData_echoes_lowercase :
    plainSession.decryptRequest plainLibraries (Sample.boxed (plainRequest "ab")) 0 =
        .ok ⟨.signData "1" "signData" (plainTexts "ab"), some 1⟩ ∧
      ∃ sent, plainSession.sentTexts plainLibraries (Sample.boxed (plainRequest "ab")) = some sent ∧
        (plainSession.Echoes plainLibraries (plainTexts "ab") sent ↔
          ∀ text ∈ sent.sender, LowercaseRaw text) := by
  have shown := decryptRequest_plain "ab"
    (.text "hello" none (some (.raw plainSession.address))) (by rfl) (by decide)
  exact ⟨shown, signData_echoes_iff shown⟩

/-- A signer written with capitals is shown and echoed without them. -/
theorem signData_respells_capitals :
    plainSession.decryptRequest plainLibraries (Sample.boxed (plainRequest "AB")) 0 =
        .ok ⟨.signData "1" "signData" (plainTexts "ab"), some 1⟩ ∧
      plainSession.sentTexts plainLibraries (Sample.boxed (plainRequest "AB")) =
        some (plainTexts "AB") ∧
      ¬ plainSession.Echoes plainLibraries (plainTexts "ab") (plainTexts "AB") := by
  refine ⟨?_, sentTexts_plain "AB", fun echoes => absurd echoes.1 (by decide)⟩
  exact decryptRequest_plain "AB"
    (.text "hello" none (some (.raw plainSession.address))) (by rfl) (by decide)

end TonConnectDerivedSession

end Echo

end WalletEngine
