import WalletEngine.Async.Region
import WalletEngine.Transport.Response
import WalletEngine.Wallet.Send

/-! # Parsers of provider answers

What the engine reads from the answers of its account, sequence-number,
submission and resolution requests. -/

namespace WalletEngine

variable (serde : Serde)

/-- A response that does not match its schema. -/
def invalidResponse (message : String) : DomainError where
  code := .invalidProviderResponse
  category := .providerProtocol
  retry := .none
  developerMessage := boundedDiagnostic message
  providerStatus := none
  retryAfterMs := none
  hostKind := none

/-- Parse a body and decode it with a typed reader. -/
def decodeBody {α : Type} (read : Json → Except String α) (body : serde.Body) :
    Except DomainError α :=
  ((serde.fromSlice body).bind read).mapError invalidResponse

section Account

structure RawEnvelope where
  ok : Bool
  result : Option Json
  error : Option Json
  description : Option String
  code : Option Json

def RawEnvelope.read (value : Json) : Except String RawEnvelope := do
  let names := ["ok", "result", "error", "description", "code"]
  let field ← value.structFields names
  -- Read by position, every field must be present.
  if (value.asArray).any (·.length < names.length) then
    throw "invalid length"
  let ok ← (Json.required (field "ok")).bind Json.boolean
  let description ← Json.optional Json.string (field "description")
  let present (field : Option Json) := field.filter (!·.isNull)
  return {
    ok
    result := present (field "result")
    error := present (field "error")
    description
    code := present (field "code") }

def providerEnvelopeError (envelope : RawEnvelope) : DomainError :=
  let developerMessage := ((envelope.error.bind valueMessage).or envelope.description).getD
    "provider rejected request"
  providerError developerMessage (envelope.code.bind providerCode)

def decodeEnvelope {α : Type} (read : Json → Except String α) (body : serde.Body) :
    Except DomainError α := do
  let envelope ← decodeBody serde RawEnvelope.read body
  if !envelope.ok then
    throw (providerEnvelopeError envelope)
  match envelope.result with
  | none => throw (invalidResponse "missing provider result")
  | some result => (read result).mapError invalidResponse

structure Account where
  balance : Json
  state : String
  syncUtime : Nat

def Account.read (value : Json) : Except String Account := do
  let field ← value.valueFields ["balance", "state", "sync_utime"]
  let balance ← Json.required (field "balance")
  let state ← Json.withDefault "" Json.string (field "state")
  let syncUtime ← (Json.required (field "sync_utime")).bind Json.unsigned
  return { balance, state, syncUtime }

def parseUnsignedDecimal (value : Json) (field : String) : Except DomainError Nat :=
  match value with
  | .str text => match parseBigUint text with
      | some value => .ok value
      | none => .error (invalidResponse (field ++ " is not an unsigned decimal"))
  | .num (.posInt value _) => .ok value
  | .num _ => .error (invalidResponse (field ++ " is not an unsigned decimal"))
  | _ => .error (invalidResponse (field ++ " is not a decimal value"))

def accountStatus (state : String) : AccountStatus :=
  if state = "nonexist" ∨ state = "nonexistent" then .nonexistent
  else if state = "uninit" ∨ state = "uninitialized" then .uninitialized
  else if state = "active" then .active
  else if state = "frozen" then .frozen
  else .unknown

def parseAccount (body : serde.Body) : Except DomainError AccountSnapshot := do
  let account ← decodeEnvelope serde Account.read body
  let balanceNanograms ← parseUnsignedDecimal account.balance "account balance"
  return { balanceNanograms, status := accountStatus account.state, syncUtime := account.syncUtime }

end Account

section Submission

/-- The number of a stack entry, as a pair or as a tagged object. -/
def stackNumber (value : Json) : Option String :=
  let pair := match value with
    | .arr [kind, number] => if kind.asStr = some "num" then number.asStr else none
    | _ => none
  pair.or <|
    if (value.get "type").bind Json.asStr = some "num" then (value.get "value").bind Json.asStr
    else none

def parseSeqno (body : serde.Body) : Except DomainError Nat := do
  let value ← (serde.fromSlice body).mapError invalidResponse
  match value.get "error" with
  | some error => throw (invalidResponse (serde.render error))
  | none => pure ()
  match ((value.get "result").bind (·.get "stack")).bind (·.item 0) with
  | none => throw (invalidResponse "missing seqno stack")
  | some first =>
    match stackNumber first with
    | none => throw (invalidResponse "invalid seqno value")
    | some encoded =>
      let parsed := if "0x".toList.isPrefixOf encoded.toList
        then parseHex u32Bound (encoded.toList.drop 2) else parseUnsigned u32Bound encoded
      match parsed with
      | some seqno => return seqno
      | none => throw (invalidResponse "invalid digit found in string")

inductive SendBocResponse where
  | accepted
  | rejected (message : String)
  deriving DecidableEq

def jsonErrorMessage (value : Json) : String :=
  let message := ((value.get "message").bind Json.asStr).or <|
    ((value.get "error").bind Json.asStr).or <|
    ((value.get "description").bind Json.asStr).or value.asStr
  boundedDiagnostic (message.getD (serde.render value))

/-- What the body of a submission answer says. -/
def sendResponseOf (value : Json) : Except DomainError SendBocResponse :=
  match (value.get "error").filter (!·.isNull) with
  | some error => .ok (.rejected (jsonErrorMessage serde error))
  | none =>
    if isFalse (value.get "ok") then .ok (.rejected (jsonErrorMessage serde value))
    else if ((value.get "result").bind (·.get "@type")).bind Json.asStr = some "ok" then
      .ok .accepted
    else .error (invalidResponse "invalid sendBoc success response")

def parseSendResponse (body : serde.Body) : Except DomainError SendBocResponse :=
  ((serde.fromSlice body).mapError invalidResponse).bind (sendResponseOf serde)

def isExplicitSendRejection (error : DomainError) : Bool :=
  error.providerStatus.any fun status =>
    [400, 401, 403, 404, 405, 413, 422, 429].contains status

end Submission

section Resolution

/-- The Base64 reader of 256-bit hashes. -/
abbrev HashReader := String → Option Base64Hash

variable (hashFrom : HashReader)

structure ExecutedMessage where
  transactionHash : Base64Hash
  transactionLt : UnsignedDecimalString
  deriving DecidableEq

structure Message where
  hash : Option String
  hashNorm : Option String

structure Transaction where
  hash : String
  lt : Json
  inMsg : Option Message

def Message.read (value : Json) : Except String Message := do
  let field ← value.structFields ["hash", "hash_norm"]
  let hash ← Json.optional Json.string (field "hash")
  let hashNorm ← Json.optional Json.string (field "hash_norm")
  return { hash, hashNorm }

def Transaction.read (value : Json) : Except String Transaction := do
  let field ← value.structFields ["hash", "lt", "in_msg"]
  let hash ← (Json.required (field "hash")).bind Json.string
  let lt ← Json.required (field "lt")
  let inMsg ← Json.optional Message.read (field "in_msg")
  return { hash, lt, inMsg }

/-- The transactions of a response; an absent list reads as an empty one. -/
def transactionsResponse (value : Json) : Except String (List Transaction) := do
  let field ← value.structFields ["transactions"]
  Json.withDefault [] (Json.array Transaction.read) (field "transactions")

/-- The wallets of a response, each with its sequence number if it has one. -/
def walletStatesResponse (value : Json) : Except String (List (Option Json)) := do
  let field ← value.structFields ["wallets"]
  let readWallet (wallet : Json) := do
    let field ← wallet.structFields ["seqno"]
    return (field "seqno").filter (!·.isNull)
  Json.withDefault [] (Json.array readWallet) (field "wallets")

def parseHash (value field : String) : Except DomainError Base64Hash :=
  match hashFrom value with
  | some hash => .ok hash
  | none => .error (invalidResponse ("invalid " ++ field))

/-- An unsigned integer below `bound`, as a number or a decimal string. -/
def parseBounded (bound : Nat) (value : Json) (field : String) : Except DomainError Nat :=
  let parsed := match value with
    | .num (.posInt value _) => if value < bound then some value else none
    | .str text => parseUnsigned bound text
    | _ => none
  match parsed with
  | some value => .ok value
  | none => .error (invalidResponse ("invalid " ++ field))

theorem parseBounded_lt {bound number : Nat} {value : Json} {field : String}
    (parsed : parseBounded bound value field = .ok number) : number < bound := by
  unfold parseBounded at parsed
  extract_lets read at parsed
  cases found : read with
  | none => rw [found] at parsed; cases parsed
  | some result =>
    rw [found] at parsed
    cases parsed
    simp only [read] at found
    split at found
    · split at found
      · rename_i small
        exact Option.some.inj found ▸ small
      · cases found
    · exact parseUnsigned_lt found
    · cases found

def parseU32 (value : Json) (field : String) : Except DomainError Nat :=
  parseBounded u32Bound value field

def parseU64String (value : Json) (field : String) : Except DomainError UnsignedDecimalString :=
  parseBounded u64Bound value field

def parseExecutedMessage (body : serde.Body) : Except DomainError (Option ExecutedMessage) := do
  let transactions ← decodeBody serde transactionsResponse body
  match transactions with
  | [] => return none
  | transaction :: _ =>
    let transactionHash ← parseHash hashFrom transaction.hash "transaction hash"
    let transactionLt ← parseU64String transaction.lt "transaction logical time"
    return some { transactionHash, transactionLt }

theorem parseExecutedMessage_lt {body : serde.Body} {executed : ExecutedMessage}
    (parsed : parseExecutedMessage serde hashFrom body = .ok (some executed)) :
    executed.transactionLt < u64Bound := by
  unfold parseExecutedMessage at parsed
  obtain ⟨transactions, _, parsed⟩ := except_bind_eq_ok.mp parsed
  cases transactions with
  | nil => cases parsed
  | cons transaction rest =>
    obtain ⟨hash, _, parsed⟩ := except_bind_eq_ok.mp parsed
    obtain ⟨lt, bounded, parsed⟩ := except_bind_eq_ok.mp parsed
    cases parsed
    exact parseBounded_lt bounded

/-- One of the hashes an inbound message is indexed by. -/
def Message.mentions (message : Message) (expected : Base64Hash) : Bool :=
  ([message.hash, message.hashNorm].filterMap id).any fun candidate =>
    hashFrom candidate == some expected

def parsePendingMessage (body : serde.Body) (expectedHash : Base64Hash) :
    Except DomainError Bool := do
  let transactions ← decodeBody serde transactionsResponse body
  return (transactions.filterMap Transaction.inMsg).any fun message =>
    message.mentions hashFrom expectedHash

def parseWalletSeqno (body : serde.Body) : Except DomainError Nat := do
  let wallets ← decodeBody serde walletStatesResponse body
  match wallets with
  | [] => throw (invalidResponse "walletStates did not return the configured wallet")
  | none :: _ => throw (invalidResponse "walletStates did not include seqno")
  | some seqno :: _ => parseU32 seqno "wallet seqno"

end Resolution

end WalletEngine
