import WalletEngine.Data.Snake
import WalletEngine.Engine.Views

/-! # Activity pages

The rows of an activity page are read from two descriptions of a transaction: the provider's
JSON, which has amounts and addresses, and the raw transaction, which has the outcome and the
bodies of the messages. -/

namespace WalletEngine

def pageSize : Nat := 10

namespace Provider

section Answers

structure TransactionId where
  lt : Json
  hash : String

/-- A message as the provider lists it. -/
structure Message where
  hash : Option String
  createdLt : Option Json
  source : Json
  destination : Json
  value : Json

structure Transaction where
  utime : Nat
  data : String
  fee : Json
  transactionId : TransactionId
  inMsg : Option Message
  outMsgs : List Message

def TransactionId.read (value : Json) : Except String TransactionId := do
  let field ← value.valueFields ["lt", "hash"]
  let lt ← Json.required (field "lt")
  let hash ← (Json.required (field "hash")).bind Json.string
  return { lt, hash }

def Message.read (value : Json) : Except String Message := do
  let field ← value.valueFields ["hash", "created_lt", "source", "destination", "value"]
  let hash ← Json.optional Json.string (field "hash")
  return {
    hash
    createdLt := (field "created_lt").filter (!·.isNull)
    source := (field "source").getD .null
    destination := (field "destination").getD .null
    value := (field "value").getD .null }

def Transaction.read (value : Json) : Except String Transaction := do
  let field ← value.valueFields ["utime", "data", "fee", "transaction_id", "in_msg", "out_msgs"]
  let utime ← (Json.required (field "utime")).bind Json.unsigned
  let data ← (Json.required (field "data")).bind Json.string
  let fee ← Json.required (field "fee")
  let transactionId ← (Json.required (field "transaction_id")).bind TransactionId.read
  let inMsg ← Json.optional Message.read (field "in_msg")
  let outMsgs ← Json.withDefault [] (Json.array Message.read) (field "out_msgs")
  return { utime, data, fee, transactionId, inMsg, outMsgs }

end Answers

section Chain

/-- What became of a transaction, by its kind. -/
inductive TxDescr where
  | ord (aborted : Bool)
  | storage
  | tickTock (aborted : Bool)
  | splitPrepare (aborted : Bool)
  | splitInstall (installed : Bool)
  | mergePrepare (aborted : Bool)
  | mergeInstall (aborted : Bool)
  deriving DecidableEq

inductive CommonMsgInfo where
  | int (bounced : Bool) (createdLt : Nat)
  | extIn
  | extOut (createdLt : Nat)
  deriving DecidableEq

def CommonMsgInfo.createdLt : CommonMsgInfo → Option Nat
  | .int _ createdLt => some createdLt
  | .extIn => none
  | .extOut createdLt => some createdLt

/-- A message of a raw transaction. -/
structure TonMessage where
  info : CommonMsgInfo
  body : Cell

/-- A raw transaction. -/
structure Tx where
  descr : TxDescr
  inMsg : Option TonMessage
  outMsgs : List TonMessage

structure ChainMessage where
  bounced : Bool
  comment : Option String
  encryptedComment : Option Boc
  deriving DecidableEq

structure ChainTransaction where
  aborted : Bool
  inMsg : Option ChainMessage
  outMsgs : List ChainMessage

/-- The readers of other libraries. -/
structure Services where
  hashFrom : HashReader
  parseAddress : String → Option TonAddressString
  fromBocBase64 : String → Except String Tx
  fromUtf8Lossy : List UInt8 → String
  toBoc : Cell → Option Boc

variable (services : Services)

def transactionAborted : TxDescr → Bool
  | .ord aborted => aborted
  | .storage => false
  | .tickTock aborted => aborted
  | .splitPrepare aborted => aborted
  | .splitInstall installed => !installed
  | .mergePrepare aborted => aborted
  | .mergeInstall aborted => aborted

def isEncryptedCommentBody (body : Cell) : Bool :=
  (body.readNum 32).map (·.1) == some encryptedCommentOpcode

def encryptedCommentBody (body : Cell) : Option Boc :=
  if isEncryptedCommentBody body then services.toBoc body else none

/-- A text behind a zero opcode. -/
def plaintextComment (body : Cell) : Option String := do
  let (opcode, rest) ← body.readNum 32
  if opcode ≠ 0 then none
  else (readSnake rest).map services.fromUtf8Lossy

def chainMessage (message : TonMessage) : ChainMessage where
  bounced := match message.info with
    | .int bounced _ => bounced
    | _ => false
  comment := plaintextComment services message.body
  encryptedComment := encryptedCommentBody services message.body

def parseTransactionChainData (transaction : Transaction) :
    Except DomainError ChainTransaction :=
  match services.fromBocBase64 transaction.data with
  | .error error => .error (invalidResponse ("invalid raw transaction data: " ++ error))
  | .ok raw => .ok {
      aborted := transactionAborted raw.descr
      inMsg := raw.inMsg.map (chainMessage services)
      outMsgs := raw.outMsgs.map (chainMessage services) }

end Chain

section Rows

variable (services : Services)

def messageAddress (value : Json) (field : String) : Except DomainError TonAddressString :=
  let named := match value with
    | .obj _ => (value.get "account_address").bind (·.string.toOption)
    | _ => value.string.toOption
  ((named.filter (· ≠ "")).bind services.parseAddress).elim
    (.error (invalidResponse (field ++ " is missing or invalid"))) .ok

def parseHash (value field : String) : Except DomainError Base64Hash :=
  (services.hashFrom value).elim
    (.error (invalidResponse (field ++ " is not a 256-bit Base64 value"))) .ok

/-- The row of a message, with what the raw transaction says about it; a message without value
has none. -/
def activityFromMessage (transaction : Transaction) (message : Message)
    (chainMessage : Option ChainMessage) (transactionFeeNanograms : Nat)
    (transactionAborted : Bool) (direction : ActivityDirection) (index : Nat) :
    Except DomainError (Option ActivityRecord) := do
  let amountNanograms ← parseUnsignedDecimal message.value "message value"
  if amountNanograms = 0 then
    return none
  let chainMessage ← chainMessage.elim
    (.error (invalidResponse "raw transaction message does not match provider JSON")) .ok
  let counterparty ← (match direction with
    | .received => messageAddress services message.source "message source"
    | .sent => messageAddress services message.destination "message destination")
  let logicalTime ← parseUnsignedDecimal transaction.transactionId.lt "logical time"
  let directionName := match direction with
    | .received => "received"
    | .sent => "sent"
  let transactionHash ← parseHash services transaction.transactionId.hash "transaction hash"
  return some {
    id := transactionHash.text ++ ":" ++ directionName ++ ":" ++ toString index
    transactionHash
    logicalTime
    timestamp := transaction.utime
    direction
    amountNanograms
    transactionFeeNanograms
    status := if chainMessage.bounced then .bounced
      else if transactionAborted then .failed else .success
    comment := chainMessage.comment
    encryptedComment := chainMessage.encryptedComment
    counterparty := some counterparty }

/-- A message with the keys that it is ordered by. -/
structure OrderedMessage where
  createdLogicalTime : Option Nat
  hash : Option Base64Hash
  originalIndex : Nat
  message : Message

def OrderedMessage.cmp (left right : OrderedMessage) : Ordering :=
  ((compare left.createdLogicalTime right.createdLogicalTime).then
    (compare (left.hash.map (·.text)) (right.hash.map (·.text)))).then
      (compare left.originalIndex right.originalIndex)

/-- The keys of the message at a position of the provider's list. -/
def orderedMessage (entry : Message × Nat) : Except DomainError OrderedMessage := do
  let createdLogicalTime ← entry.1.createdLt.mapM
    (parseUnsignedDecimal · "message created logical time")
  let hash ← entry.1.hash.mapM (parseHash services · "message hash")
  return { createdLogicalTime, hash, originalIndex := entry.2, message := entry.1 }

def orderedOutMessages (transaction : Transaction) :
    Except DomainError (List OrderedMessage) := do
  let messages ← transaction.outMsgs.zipIdx.mapM (orderedMessage services)
  return messages.mergeSort fun left right => (left.cmp right).isLE

/-- The row of the message received, if there is one. -/
def receivedItem (transaction : Transaction) (chainData : ChainTransaction) (fee : Nat) :
    Except DomainError (Option ActivityRecord) :=
  match transaction.inMsg with
  | none => .ok none
  | some message => activityFromMessage services transaction message chainData.inMsg fee
      chainData.aborted .received 0

/-- The row of a message sent. What the raw transaction says about it is looked up at its
position in the provider's list, its identifier is made from its position in the order. -/
def sentItem (transaction : Transaction) (chainData : ChainTransaction) (fee : Nat)
    (entry : OrderedMessage × Nat) : Except DomainError (Option ActivityRecord) :=
  activityFromMessage services transaction entry.1.message
    chainData.outMsgs[entry.1.originalIndex]? fee chainData.aborted .sent entry.2

/-- The rows of one transaction: the received message and the messages sent, in their order. -/
def transactionItems (transaction : Transaction) : Except DomainError (List ActivityRecord) := do
  let chainData ← parseTransactionChainData services transaction
  let fee ← parseUnsignedDecimal transaction.fee "transaction fee"
  let received ← receivedItem services transaction chainData fee
  let outgoing ← orderedOutMessages services transaction
  let sent ← outgoing.zipIdx.mapM (sentItem services transaction chainData fee)
  return received.toList ++ sent.reduceOption

/-- Where a page ends: at its last transaction. -/
def pageCursor (transactions : List Transaction) :
    Except DomainError (Option (Nat × Base64Hash)) :=
  transactions.getLast?.mapM fun transaction => do
    let logicalTime ← parseUnsignedDecimal transaction.transactionId.lt "logical time"
    let hash ← parseHash services transaction.transactionId.hash "transaction hash"
    return (logicalTime, hash)

/-- The page of the transactions of an answer. -/
def activityPage (transactions : List Transaction) (pageSize : Nat) :
    Except DomainError ActivityPage := do
  let cursor ← pageCursor services transactions
  let items ← transactions.mapM (transactionItems services)
  return {
    items := items.flatten.mergeSort activityRecordBefore
    cursor
    hasMore := pageSize ≤ transactions.length }

def parseActivity (serde : Serde) (body : serde.Body) (pageSize : Nat) :
    Except DomainError ActivityPage := do
  let transactions ← decodeEnvelope serde (Json.array Transaction.read) body
  activityPage services transactions pageSize

end Rows

end Provider

end WalletEngine
