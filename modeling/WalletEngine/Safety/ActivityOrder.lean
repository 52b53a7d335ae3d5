import WalletEngine.Data.Decimal
import WalletEngine.Safety.ActivityList

/-! # Rows and the order of the provider's list

The rows of the messages that a transaction sent take their amounts and addresses from the
provider's list and their outcome and comments from the raw transaction. They are paired by the
position in the provider's list, so the rows depend on the order of that list unless the raw
messages all say the same. -/

namespace WalletEngine

namespace Provider

section Parts

variable {fee index : Nat} {aborted : Bool}

/-- What the provider says about a message with value that was sent. -/
structure SentParts where
  amount : Nat
  counterparty : TonAddressString
  logicalTime : Nat
  hash : Base64Hash

variable {services : Services} {transaction : Transaction} {message : Message}

variable (services) in
/-- The part of a row that is read from the provider's list; a message without value has none. -/
def sentParts (transaction : Transaction) (message : Message) :
    Except DomainError (Option SentParts) := do
  let amount ← parseUnsignedDecimal message.value "message value"
  if amount = 0 then
    return none
  let counterparty ← messageAddress services message.destination "message destination"
  let logicalTime ← parseUnsignedDecimal transaction.transactionId.lt "logical time"
  let hash ← parseHash services transaction.transactionId.hash "transaction hash"
  return some { amount, counterparty, logicalTime, hash }

/-- The row of a message and of what the raw transaction tells. -/
def SentParts.row (parts : SentParts) (transaction : Transaction) (fee : Nat) (aborted : Bool)
    (index : Nat) (said : ChainMessage) : ActivityRecord where
  id := parts.hash.text ++ ":" ++ "sent" ++ ":" ++ toString index
  transactionHash := parts.hash
  logicalTime := parts.logicalTime
  timestamp := transaction.utime
  direction := .sent
  amountNanograms := parts.amount
  transactionFeeNanograms := fee
  status := if said.bounced then .bounced else if aborted then .failed else .success
  comment := said.comment
  encryptedComment := said.encryptedComment
  counterparty := some parts.counterparty

/-- A row has the outcome and the comments of a message. -/
structure Tells (row : ActivityRecord) (said : ChainMessage) : Prop where
  bounced : row.status = .bounced ↔ said.bounced = true
  comment : row.comment = said.comment
  encryptedComment : row.encryptedComment = said.encryptedComment

theorem tells_row_iff {parts : SentParts} {said other : ChainMessage} :
    Tells (parts.row transaction fee aborted index said) other ↔ said = other := by
  have status : (parts.row transaction fee aborted index said).status = .bounced ↔
      said.bounced = true := by
    simp only [SentParts.row]
    cases said.bounced <;> cases aborted <;> simp
  constructor
  · intro tells
    obtain ⟨bounced, comment, encrypted⟩ := said
    obtain ⟨otherBounced, otherComment, otherEncrypted⟩ := other
    have same := Bool.eq_iff_iff.mpr (status.symm.trans tells.bounced)
    have comments := tells.comment
    have encrypteds := tells.encryptedComment
    dsimp only [SentParts.row] at same comments encrypteds
    rw [same, comments, encrypteds]
  · rintro rfl
    exact ⟨status, rfl, rfl⟩

/-- An identifier tells the rank of a message. -/
theorem rank_of_id {hash : String} {first second : Nat}
    (same : hash ++ ":" ++ "sent" ++ ":" ++ toString first =
      hash ++ ":" ++ "sent" ++ ":" ++ toString second) : first = second := by
  have digits : toString first = toString second := by
    rw [← String.toList_inj] at same ⊢
    simpa using same
  rw [← decimalValue_toString first, digits, decimalValue_toString]

theorem activityFromMessage_found (said : ChainMessage) (fee : Nat) (aborted : Bool)
    (index : Nat) :
    activityFromMessage services transaction message (some said) fee aborted .sent index =
      (sentParts services transaction message).map
        (Option.map fun parts => parts.row transaction fee aborted index said) := by
  unfold activityFromMessage sentParts
  cases parseUnsignedDecimal message.value "message value" with
  | error error => rfl
  | ok amount =>
    by_cases zero : amount = 0
    · simp [zero, pure, Except.pure, bind, Except.bind, Except.map]
    · cases messageAddress services message.destination "message destination" with
      | error error => simp [zero, bind, Except.bind, Except.map]
      | ok counterparty =>
        cases parseUnsignedDecimal transaction.transactionId.lt "logical time" with
        | error error => simp [zero, bind, Except.bind, Except.map]
        | ok logicalTime =>
          cases parseHash services transaction.transactionId.hash "transaction hash" with
          | error error => simp [zero, bind, Except.bind, Except.map]
          | ok hash =>
            simp [zero, bind, Except.bind, Except.map, pure, Except.pure, SentParts.row]

/-- Without a message in the raw transaction only a message without value is accepted. -/
theorem activityFromMessage_missing {row : Option ActivityRecord} :
    activityFromMessage services transaction message none fee aborted .sent index = .ok row ↔
      row = none ∧ sentParts services transaction message = .ok none := by
  unfold activityFromMessage sentParts
  cases parseUnsignedDecimal message.value "message value" with
  | error error => simp [bind, Except.bind]
  | ok amount =>
    by_cases zero : amount = 0
    · simp [zero, pure, Except.pure, bind, Except.bind, eq_comm]
    · cases messageAddress services message.destination "message destination" <;>
        cases parseUnsignedDecimal transaction.transactionId.lt "logical time" <;>
        cases parseHash services transaction.transactionId.hash "transaction hash" <;>
        simp [zero, bind, Except.bind, pure, Except.pure]

theorem direction_of_activityFromMessage {said : Option ChainMessage}
    {direction : ActivityDirection} {row : ActivityRecord}
    (read : activityFromMessage services transaction message said fee aborted direction index =
      .ok (some row)) : row.direction = direction := by
  obtain ⟨amount, -, read⟩ := except_bind_eq_ok.mp read
  dsimp only at read
  split at read
  · cases read
  · obtain ⟨_, -, read⟩ := except_bind_eq_ok.mp read
    obtain ⟨_, -, read⟩ := except_bind_eq_ok.mp read
    obtain ⟨_, -, read⟩ := except_bind_eq_ok.mp read
    obtain ⟨_, -, read⟩ := except_bind_eq_ok.mp read
    rw [← Option.some.inj (Except.ok.inj read)]

theorem exists_sentParts {said : Option ChainMessage} {row : Option ActivityRecord}
    (read : activityFromMessage services transaction message said fee
      aborted .sent index = .ok row) :
    ∃ parts, sentParts services transaction message = .ok parts := by
  cases said with
  | none => exact ⟨none, (activityFromMessage_missing.mp read).2⟩
  | some said =>
    rw [activityFromMessage_found] at read
    obtain ⟨parts, found, -⟩ := except_map_eq_ok.mp read
    exact ⟨parts, found⟩

end Parts

section Reading

def createdTime (message : Message) : Except DomainError (Option Nat) :=
  message.createdLt.mapM (parseUnsignedDecimal · "message created logical time")

variable (services : Services)

def messageHash (message : Message) : Except DomainError (Option Base64Hash) :=
  message.hash.mapM (parseHash services · "message hash")

/-- What is read of a transaction in whatever order its messages are listed. -/
structure Reading (transaction : Transaction) where
  raw : Tx
  fee : Nat
  received : Option ActivityRecord
  created : Message → Option Nat
  hash : Message → Option Base64Hash
  parts : Message → Option SentParts
  readRaw : services.fromBocBase64 transaction.data = .ok raw
  readFee : parseUnsignedDecimal transaction.fee "transaction fee" = .ok fee
  readReceived : receivedItem services transaction ⟨transactionAborted raw.descr,
    raw.inMsg.map (chainMessage services), raw.outMsgs.map (chainMessage services)⟩ fee =
      .ok received
  readCreated : ∀ message ∈ transaction.outMsgs, createdTime message = .ok (created message)
  readHash : ∀ message ∈ transaction.outMsgs, messageHash services message = .ok (hash message)
  readParts : ∀ message ∈ transaction.outMsgs,
    sentParts services transaction message = .ok (parts message)

/-- The transaction with its messages in another order. -/
def Transaction.listing (transaction : Transaction) (messages : List Message) : Transaction :=
  { transaction with outMsgs := messages }

variable {services} {transaction : Transaction}

namespace Reading

variable (reading : Reading services transaction) {messages : List Message}

/-- The raw transaction as the source keeps it. -/
def chain : ChainTransaction :=
  ⟨transactionAborted reading.raw.descr, reading.raw.inMsg.map (chainMessage services),
    reading.raw.outMsgs.map (chainMessage services)⟩

/-- What the raw transaction says about the message at a position. -/
def said (index : Nat) : Option ChainMessage :=
  (reading.raw.outMsgs.map (chainMessage services))[index]?

def entry (listed : Message × Nat) : OrderedMessage :=
  ⟨reading.created listed.1, reading.hash listed.1, listed.2, listed.1⟩

def ordered (messages : List Message) : List OrderedMessage :=
  (messages.zipIdx.map reading.entry).mergeSort fun left right => (left.cmp right).isLE

/-- The row of a message in the order, if it has value and is found in the raw transaction. -/
def sentRow (ranked : OrderedMessage × Nat) : Option ActivityRecord :=
  (reading.parts ranked.1.message).bind fun parts => (reading.said ranked.1.originalIndex).map
    (parts.row transaction reading.fee (transactionAborted reading.raw.descr) ranked.2)

def items (messages : List Message) : List ActivityRecord :=
  reading.received.toList ++ (reading.ordered messages).zipIdx.filterMap reading.sentRow

/-- Every message with value is found in the raw transaction. -/
def Fits (messages : List Message) : Prop :=
  ∀ listed ∈ messages.zipIdx, (reading.parts listed.1).isSome → (reading.said listed.2).isSome

theorem orderedMessage_listed {listed : Message × Nat}
    (member : listed.1 ∈ transaction.outMsgs) :
    orderedMessage services listed = .ok (reading.entry listed) := by
  have time : listed.1.createdLt.mapM (parseUnsignedDecimal · "message created logical time") =
      .ok (reading.created listed.1) := reading.readCreated _ member
  have hash : listed.1.hash.mapM (parseHash services · "message hash") =
      .ok (reading.hash listed.1) := reading.readHash _ member
  unfold orderedMessage
  rw [time, hash]
  rfl

theorem orderedOutMessages_listing (listed : messages ⊆ transaction.outMsgs) :
    orderedOutMessages services (transaction.listing messages) =
      .ok (reading.ordered messages) := by
  have entries : messages.zipIdx.mapM (orderedMessage services) =
      .ok (messages.zipIdx.map reading.entry) := by
    rw [except_mapM_eq_ok, List.forall₂_map_right_iff]
    exact List.forall₂_same.mpr fun entry member =>
      reading.orderedMessage_listed (listed (List.fst_mem_of_mem_zipIdx member))
  refine except_bind_eq_ok.mpr ⟨_, entries, rfl⟩

theorem mem_ordered {entry : OrderedMessage} :
    entry ∈ reading.ordered messages ↔ ∃ listed ∈ messages.zipIdx, reading.entry listed = entry := by
  rw [ordered, (List.mergeSort_perm _ _).mem_iff, List.mem_map]

/-- The row of a message is what the source computes, unless it is not found. -/
theorem sentItem_eq_ok {ranked : OrderedMessage × Nat} {row : Option ActivityRecord}
    (member : ranked.1.message ∈ transaction.outMsgs) :
    sentItem services (transaction.listing messages) reading.chain reading.fee ranked = .ok row ↔
      ((reading.parts ranked.1.message).isSome → (reading.said ranked.1.originalIndex).isSome) ∧
        row = reading.sentRow ranked := by
  have parts : sentParts services (transaction.listing messages) ranked.1.message =
      .ok (reading.parts ranked.1.message) := reading.readParts _ member
  have lookup : reading.chain.outMsgs[ranked.1.originalIndex]? =
      reading.said ranked.1.originalIndex := rfl
  unfold sentItem sentRow
  rw [lookup]
  cases found : reading.said ranked.1.originalIndex with
  | none =>
    rw [activityFromMessage_missing, parts]
    cases valued : reading.parts ranked.1.message <;> simp
  | some said =>
    rw [activityFromMessage_found, parts]
    cases valued : reading.parts ranked.1.message with
    | none => simp [Except.map, eq_comm]
    | some parts =>
      simp only [Except.map, Option.map_some, Except.ok.injEq, Option.isSome_some,
        imp_self, true_and, Option.bind_some, eq_comm]
      rfl

theorem mem_of_ranked (listed : messages ⊆ transaction.outMsgs) {ranked : OrderedMessage × Nat}
    (member : ranked ∈ (reading.ordered messages).zipIdx) :
    ranked.1.message ∈ transaction.outMsgs := by
  obtain ⟨entry, found, same⟩ := reading.mem_ordered.mp (List.fst_mem_of_mem_zipIdx member)
  rw [← same]
  exact listed (List.fst_mem_of_mem_zipIdx found)

/-- The messages that are ranked are those that are listed. -/
theorem forall_ranked_iff (holds : Message → Nat → Prop) :
    (∀ ranked ∈ (reading.ordered messages).zipIdx,
      holds ranked.1.message ranked.1.originalIndex) ↔
        ∀ listed ∈ messages.zipIdx, holds listed.1 listed.2 := by
  constructor
  · intro all listed member
    have entry := reading.mem_ordered.mpr ⟨listed, member, rfl⟩
    obtain ⟨rank, found⟩ := List.mem_iff_getElem?.mp entry
    exact all (reading.entry listed, rank) (List.mem_zipIdx_iff_getElem?.mpr found)
  · intro all ranked member
    obtain ⟨listed, found, same⟩ := reading.mem_ordered.mp (List.fst_mem_of_mem_zipIdx member)
    rw [← same]
    exact all listed found

theorem reduceOption_sentRow (ranked : List (OrderedMessage × Nat)) :
    (ranked.map reading.sentRow).reduceOption = ranked.filterMap reading.sentRow :=
  List.filterMap_map

/-- The rows of the transaction in any order of its messages. -/
theorem transactionItems_listing (listed : messages ⊆ transaction.outMsgs)
    {rows : List ActivityRecord} :
    transactionItems services (transaction.listing messages) = .ok rows ↔
      reading.Fits messages ∧ rows = reading.items messages := by
  have sent : ∀ found : List (Option ActivityRecord),
      (reading.ordered messages).zipIdx.mapM (sentItem services (transaction.listing messages)
        reading.chain reading.fee) = .ok found ↔
        reading.Fits messages ∧ found = (reading.ordered messages).zipIdx.map reading.sentRow := by
    intro found
    rw [Fits, ← reading.forall_ranked_iff fun message index =>
      (reading.parts message).isSome → (reading.said index).isSome]
    exact except_mapM_eq_ok_iff fun ranked member row =>
      reading.sentItem_eq_ok (reading.mem_of_ranked listed member)
  have raw : parseTransactionChainData services (transaction.listing messages) =
      .ok reading.chain := by
    have read : services.fromBocBase64 (transaction.listing messages).data = .ok reading.raw :=
      reading.readRaw
    rw [parseTransactionChainData, read]
    rfl
  have fee : parseUnsignedDecimal (transaction.listing messages).fee "transaction fee" =
      .ok reading.fee := reading.readFee
  have received : receivedItem services (transaction.listing messages) reading.chain reading.fee =
      .ok reading.received := reading.readReceived
  unfold transactionItems
  rw [raw, except_ok_bind, fee, except_ok_bind, received, except_ok_bind,
    reading.orderedOutMessages_listing listed, except_ok_bind, except_bind_eq_ok]
  constructor
  · rintro ⟨others, readSent, ran⟩
    obtain ⟨fits, rfl⟩ := (sent others).mp readSent
    refine ⟨fits, ?_⟩
    rw [← Except.ok.inj ran, reduceOption_sentRow, items]
  · rintro ⟨fits, rfl⟩
    refine ⟨_, (sent _).mpr ⟨fits, rfl⟩, ?_⟩
    rw [reduceOption_sentRow]
    rfl

section Ranks

instance : Std.TransCmp OrderedMessage.cmp :=
  inferInstanceAs (Std.TransCmp (compareLex (compareLex (compareOn (·.createdLogicalTime))
    (compareOn fun entry : OrderedMessage => entry.hash.map (·.text)))
      (compareOn (·.originalIndex))))

theorem cmp_total (first second : OrderedMessage) :
    ((first.cmp second).isLE || (second.cmp first).isLE) = true := by
  have swapped : first.cmp second = (second.cmp first).swap := Std.OrientedCmp.eq_swap
  rw [swapped]
  cases second.cmp first <;> rfl

theorem created_of_cmp {first second : OrderedMessage} (before : (first.cmp second).isLE = true) :
    (compare first.createdLogicalTime second.createdLogicalTime).isLE = true :=
  (Ordering.isLE_then_iff_and.mp (Ordering.isLE_then_iff_and.mp before).1).1

/-- Messages with different creation times are ranked in one way. -/
theorem map_message_ordered
    (distinct : (transaction.outMsgs.map reading.created).Nodup)
    (same : messages.Perm transaction.outMsgs) :
    (reading.ordered messages).map (·.message) =
      (reading.ordered transaction.outMsgs).map (·.message) := by
  have listed : ∀ messages : List Message,
      ((reading.ordered messages).map (·.message)).Perm messages := by
    intro messages
    have entries := ((List.mergeSort_perm (messages.zipIdx.map reading.entry)
      fun left right => (left.cmp right).isLE).map (·.message))
    rw [List.map_map] at entries
    exact entries.trans (.of_eq (List.zipIdx_map_fst 0 messages))
  have sorted : ∀ messages : List Message, ((reading.ordered messages).map (·.message)).Pairwise
      fun first second =>
        (compare (reading.created first) (reading.created second)).isLE = true := by
    intro messages
    rw [List.pairwise_map]
    refine (List.pairwise_mergeSort
      (fun _ _ _ => Std.TransCmp.isLE_trans) cmp_total _).imp_of_mem ?_
    intro first second left right before
    obtain ⟨_, _, rfl⟩ := reading.mem_ordered.mp left
    obtain ⟨_, _, rfl⟩ := reading.mem_ordered.mp right
    exact created_of_cmp before
  refine @List.Perm.eq_of_pairwise _ (fun first second =>
    (compare (reading.created first) (reading.created second)).isLE = true) _ _ ?_ (sorted _)
      (sorted _) ((listed _).trans (same.trans (listed _).symm))
  intro first second left right before after
  have equal : reading.created first = reading.created second :=
    Std.LawfulEqCmp.eq_of_compare (Std.OrientedCmp.isLE_antisymm before after)
  refine List.inj_on_of_nodup_map distinct ?_ ((listed _).mem_iff.mp right) equal
  exact same.mem_iff.mp ((listed _).mem_iff.mp left)

end Ranks

section Places

/-- The messages with value. -/
def valued (messages : List Message) : List Message :=
  messages.filter fun message => (reading.parts message).isSome

theorem isSome_said_iff {index : Nat} :
    (reading.said index).isSome = true ↔ index < reading.raw.outMsgs.length := by
  simp [said]

/-- Messages that are all found are no more than there are. -/
theorem length_valued_le (fits : reading.Fits messages) :
    (reading.valued messages).length ≤ reading.raw.outMsgs.length := by
  have split := messages.take_append_drop reading.raw.outMsgs.length
  have none : reading.valued (messages.drop reading.raw.outMsgs.length) = [] := by
    refine List.filter_eq_nil_iff.mpr fun message member value => ?_
    obtain ⟨index, found⟩ := List.mem_iff_getElem?.mp member
    rw [List.getElem?_drop] at found
    have placed := fits (message, reading.raw.outMsgs.length + index)
      (List.mem_zipIdx_iff_getElem?.mpr found) value
    have := reading.isSome_said_iff.mp placed
    omega
  rw [← split, valued, List.filter_append]
  change (_ ++ reading.valued _).length ≤ _
  rw [none, List.append_nil]
  exact (List.length_filter_le _ _).trans (List.length_take_le _ _)

/-- With the messages with value in front, they are all found when there are enough. -/
theorem fits_valued_first (enough : (reading.valued messages).length ≤ reading.raw.outMsgs.length) :
    reading.Fits (reading.valued messages ++
      messages.filter fun message => !(reading.parts message).isSome) := by
  intro listed member value
  rw [isSome_said_iff]
  by_contra beyond
  have found := List.mem_zipIdx_iff_getElem?.mp member
  rw [List.getElem?_append_right (by omega)] at found
  have plain := (List.mem_filter.mp (List.mem_of_getElem? found)).2
  rw [value] at plain
  cases plain

end Places

end Reading

theorem getD_toOption {α : Type} {read : Except DomainError (Option α)}
    (accepted : ∃ value, read = .ok value) : read = .ok (read.toOption.getD none) := by
  obtain ⟨value, rfl⟩ := accepted
  rfl

/-- A transaction that is accepted in some order can be read. -/
theorem exists_reading {messages : List Message} (same : messages.Perm transaction.outMsgs)
    {rows : List ActivityRecord}
    (ran : transactionItems services (transaction.listing messages) = .ok rows) :
    Nonempty (Reading services transaction) := by
  obtain ⟨chain, readRaw, ran⟩ := except_bind_eq_ok.mp ran
  obtain ⟨fee, readFee, ran⟩ := except_bind_eq_ok.mp ran
  obtain ⟨received, readReceived, ran⟩ := except_bind_eq_ok.mp ran
  obtain ⟨outgoing, readOrder, ran⟩ := except_bind_eq_ok.mp ran
  obtain ⟨sent, readSent, -⟩ := except_bind_eq_ok.mp ran
  obtain ⟨raw, decoded, rfl⟩ : ∃ raw, services.fromBocBase64 transaction.data = .ok raw ∧
      ChainTransaction.mk (transactionAborted raw.descr) (raw.inMsg.map (chainMessage services))
        (raw.outMsgs.map (chainMessage services)) = chain := by
    unfold parseTransactionChainData at readRaw
    split at readRaw
    · cases readRaw
    · next raw found => exact ⟨raw, found, Except.ok.inj readRaw⟩
  obtain ⟨entries, readEntries, sorted⟩ := except_bind_eq_ok.mp readOrder
  -- Every message was read once for the order and once for its row.
  have each : ∀ message ∈ transaction.outMsgs,
      (∃ time, createdTime message = .ok time) ∧ (∃ hash, messageHash services message = .ok hash) ∧
        ∃ parts, sentParts services transaction message = .ok parts := by
    intro message member
    obtain ⟨index, found⟩ := List.mem_iff_getElem?.mp (same.mem_iff.mpr member)
    have listed : (message, index) ∈ messages.zipIdx := List.mem_zipIdx_iff_getElem?.mpr found
    obtain ⟨entry, stored, read⟩ := exists_of_mapM_mem readEntries listed
    obtain ⟨time, readTime, read⟩ := except_bind_eq_ok.mp read
    obtain ⟨hash, readHash, made⟩ := except_bind_eq_ok.mp read
    have ranked : entry ∈ outgoing := by
      rw [← Except.ok.inj sorted]
      exact (List.mergeSort_perm _ _).mem_iff.mpr stored
    obtain ⟨rank, placed⟩ := List.mem_iff_getElem?.mp ranked
    have place : (entry, rank) ∈ outgoing.zipIdx := List.mem_zipIdx_iff_getElem?.mpr placed
    obtain ⟨row, -, item⟩ := exists_of_mapM_mem readSent place
    rw [← Except.ok.inj made] at item
    exact ⟨⟨time, readTime⟩, ⟨hash, readHash⟩, exists_sentParts item⟩
  exact ⟨{
    raw, fee, received
    created := fun message => (createdTime message).toOption.getD none
    hash := fun message => (messageHash services message).toOption.getD none
    parts := fun message => (sentParts services transaction message).toOption.getD none
    readRaw := decoded
    readFee := readFee
    readReceived := readReceived
    readCreated := fun message member => getD_toOption (each message member).1
    readHash := fun message member => getD_toOption (each message member).2.1
    readParts := fun message member => getD_toOption (each message member).2.2 }⟩

end Reading

section Pages

variable (services : Services) (before after : List Transaction) (transaction : Transaction)

/-- The rows of a page; none when it is refused. -/
def pageItems (transactions : List Transaction) : Option (List ActivityRecord) :=
  (activityPage services transactions pageSize).toOption.map (·.items)

/-- A row tells what the raw message with its own creation time says. -/
def Attributed : Prop :=
  ∀ raw outgoing items, services.fromBocBase64 transaction.data = .ok raw →
    orderedOutMessages services transaction = .ok outgoing →
    transactionItems services transaction = .ok items →
    ∀ ranked ∈ outgoing.zipIdx, ∀ row ∈ items, row.direction = .sent →
      row.id = row.transactionHash.text ++ ":" ++ "sent" ++ ":" ++ toString ranked.2 →
      ∀ message ∈ raw.outMsgs, ∀ time, ranked.1.createdLogicalTime = some time →
        message.info.createdLt = some time → Tells row (chainMessage services message)

/-- In every order of the messages of a transaction its page has the same rows, and each of them
tells what its own message says. -/
def OrderFree : Prop :=
  ∀ messages : List Message, messages.Perm transaction.outMsgs →
    pageItems services (before ++ transaction.listing messages :: after) =
        pageItems services (before ++ transaction :: after) ∧
      ((pageItems services (before ++ transaction.listing messages :: after)).isSome →
        Attributed services (transaction.listing messages))

variable {services before after transaction}

/-- The page is accepted in some order of the messages. -/
structure Reading.Readable (reading : Reading services transaction)
    (before after : List Transaction) : Prop where
  cursor : ∃ cursor, pageCursor services (before ++ transaction :: after) = .ok cursor
  others : ∀ other ∈ before ++ after, ∃ items, transactionItems services other = .ok items
  enough : (reading.valued transaction.outMsgs).length ≤ reading.raw.outMsgs.length

/-- The raw messages at the positions of the list and those with the creation time of a message
with value all say the same. -/
def Reading.Uniform (reading : Reading services transaction) : Prop :=
  ∃ common, (∀ index < transaction.outMsgs.length, reading.said index = some common) ∧
    ∀ raw ∈ reading.raw.outMsgs, ∀ message ∈ reading.valued transaction.outMsgs, ∀ time,
      reading.created message = some time → raw.info.createdLt = some time →
        chainMessage services raw = common

theorem pageCursor_listing (messages : List Message) :
    pageCursor services (before ++ transaction.listing messages :: after) =
      pageCursor services (before ++ transaction :: after) := by
  unfold pageCursor
  cases after using List.reverseRecOn with
  | nil => simp [Transaction.listing]
  | append_singleton after last =>
    have ends : ∀ middle : Transaction,
        (before ++ middle :: (after ++ [last])).getLast? = some last := by
      intro middle
      rw [← List.cons_append, ← List.append_assoc, List.getLast?_concat]
    rw [ends, ends]

/-- The rows of a page around one transaction. -/
theorem pageItems_eq_some {middle : Transaction} {rows : List ActivityRecord} :
    pageItems services (before ++ middle :: after) = some rows ↔
      (∃ cursor, pageCursor services (before ++ middle :: after) = .ok cursor) ∧
        ∃ heads items tails, before.mapM (transactionItems services) = .ok heads ∧
          transactionItems services middle = .ok items ∧
          after.mapM (transactionItems services) = .ok tails ∧
          rows = (heads.flatten ++ items ++ tails.flatten).mergeSort activityRecordBefore := by
  unfold pageItems activityPage
  rw [Option.map_eq_some_iff]
  constructor
  · rintro ⟨page, accepted, rfl⟩
    obtain ⟨cursor, readCursor, ran⟩ := except_bind_eq_ok.mp (except_toOption_eq_some.mp accepted)
    obtain ⟨items, readItems, same⟩ := except_bind_eq_ok.mp ran
    rw [List.mapM_append] at readItems
    obtain ⟨heads, readHeads, ran⟩ := except_bind_eq_ok.mp readItems
    obtain ⟨others, readOthers, split⟩ := except_bind_eq_ok.mp ran
    rw [List.mapM_cons] at readOthers
    obtain ⟨own, readOwn, ran⟩ := except_bind_eq_ok.mp readOthers
    obtain ⟨tails, readTails, rest⟩ := except_bind_eq_ok.mp ran
    refine ⟨⟨cursor, readCursor⟩, heads, own, tails, readHeads, readOwn, readTails, ?_⟩
    rw [← Except.ok.inj same, ← Except.ok.inj split, ← Except.ok.inj rest]
    simp
  · rintro ⟨⟨cursor, readCursor⟩, heads, own, tails, readHeads, readOwn, readTails, rfl⟩
    refine ⟨⟨(heads.flatten ++ own ++ tails.flatten).mergeSort activityRecordBefore, cursor,
      pageSize ≤ (before ++ middle :: after).length⟩, except_toOption_eq_some.mpr ?_, rfl⟩
    refine except_bind_eq_ok.mpr ⟨cursor, readCursor, ?_⟩
    refine except_bind_eq_ok.mpr ⟨heads ++ own :: tails, ?_, ?_⟩
    · rw [List.mapM_append, List.mapM_cons, readHeads, readOwn, readTails]
      rfl
    · simp [pure, Except.pure]

namespace Reading

variable {reading : Reading services transaction} {messages : List Message}
variable {message : Message} {ranked : OrderedMessage × Nat}

theorem parts_of_valued_nil (empty : reading.valued transaction.outMsgs = [])
    (member : message ∈ transaction.outMsgs) : reading.parts message = none := by
  have plain := List.filter_eq_nil_iff.mp empty message member
  simpa using plain

/-- Without messages with value there are no rows of messages sent. -/
theorem items_of_valued_nil (empty : reading.valued transaction.outMsgs = [])
    (same : messages.Perm transaction.outMsgs) :
    reading.Fits messages ∧ reading.items messages = reading.received.toList := by
  constructor
  · intro listed member value
    have plain := parts_of_valued_nil empty
      (same.mem_iff.mp (List.fst_mem_of_mem_zipIdx member))
    rw [plain] at value
    cases value
  · have rows : (reading.ordered messages).zipIdx.filterMap reading.sentRow = [] := by
      refine List.filterMap_eq_nil_iff.mpr fun ranked member => ?_
      have plain := parts_of_valued_nil empty (reading.mem_of_ranked (fun _ => same.mem_iff.mp) member)
      rw [sentRow, plain]
      rfl
    rw [items, rows, List.append_nil]

/-- A message in the order is found at its position in the list. -/
theorem originalIndex_lt (member : ranked ∈ (reading.ordered messages).zipIdx) :
    ranked.1.originalIndex < messages.length := by
  obtain ⟨listed, found, same⟩ := reading.mem_ordered.mp (List.fst_mem_of_mem_zipIdx member)
  rw [← same]
  exact (List.getElem?_eq_some_iff.mp (List.mem_zipIdx_iff_getElem?.mp found)).1

/-- When the raw messages all say the same, the rows are those of the messages by rank. -/
theorem items_of_common {common : ChainMessage} (same : messages.Perm transaction.outMsgs)
    (all : ∀ index < transaction.outMsgs.length, reading.said index = some common) :
    reading.Fits messages ∧ reading.items messages = reading.received.toList ++
      ((reading.ordered messages).map (·.message)).zipIdx.filterMap fun ranked =>
        (reading.parts ranked.1).map fun parts => parts.row transaction reading.fee
          (transactionAborted reading.raw.descr) ranked.2 common := by
  have found : ∀ ranked ∈ (reading.ordered messages).zipIdx,
      reading.said ranked.1.originalIndex = some common := by
    intro ranked member
    exact all _ (same.length_eq ▸ originalIndex_lt member)
  constructor
  · intro listed member _
    have inside := (List.getElem?_eq_some_iff.mp (List.mem_zipIdx_iff_getElem?.mp member)).1
    rw [all _ (same.length_eq ▸ inside)]
    rfl
  · rw [items, List.zipIdx_map, List.filterMap_map]
    refine congrArg _ (List.filterMap_congr fun ranked member => ?_)
    have place := found ranked member
    obtain ⟨entry, rank⟩ := ranked
    dsimp only [sentRow, Function.comp_apply, Prod.map_apply, id_eq] at place ⊢
    rw [place]
    cases reading.parts entry.message <;> rfl

/-- In every order the same rows, when there is nothing to mix up. -/
theorem items_settled (distinct : (transaction.outMsgs.map reading.created).Nodup)
    (settled : reading.valued transaction.outMsgs = [] ∨ reading.Uniform)
    (same : messages.Perm transaction.outMsgs) :
    reading.Fits messages ∧ reading.items messages = reading.items transaction.outMsgs := by
  rcases settled with none | ⟨common, all, -⟩
  · obtain ⟨fits, rows⟩ := items_of_valued_nil none same
    exact ⟨fits, rows.trans (items_of_valued_nil none (.refl _)).2.symm⟩
  · obtain ⟨fits, rows⟩ := items_of_common same all
    refine ⟨fits, ?_⟩
    rw [rows, (items_of_common (.refl _) all).2, reading.map_message_ordered distinct same]

/-- A row of a message sent comes from a message in the order. -/
theorem exists_ranked {row : ActivityRecord} (member : row ∈ reading.items messages)
    (sent : row.direction = .sent) :
    ∃ ranked ∈ (reading.ordered messages).zipIdx, reading.sentRow ranked = some row := by
  rcases List.mem_append.mp member with received | found
  · obtain ⟨message, read⟩ : ∃ message, activityFromMessage services transaction message
        (reading.raw.inMsg.map (chainMessage services)) reading.fee
          (transactionAborted reading.raw.descr) .received 0 = .ok (some row) := by
      have read := reading.readReceived
      rw [Option.mem_toList.mp received] at read
      unfold receivedItem at read
      split at read
      · cases read
      · next message _ => exact ⟨message, read⟩
    rw [direction_of_activityFromMessage read] at sent
    cases sent
  · exact List.mem_filterMap.mp found

theorem sentRow_eq_some {row : ActivityRecord} :
    reading.sentRow ranked = some row ↔ ∃ parts said,
      reading.parts ranked.1.message = some parts ∧
        reading.said ranked.1.originalIndex = some said ∧
          parts.row transaction reading.fee (transactionAborted reading.raw.descr) ranked.2 said =
            row := by
  simp only [sentRow, Option.bind_eq_some_iff, Option.map_eq_some_iff]
  constructor
  · rintro ⟨parts, valued, said, found, made⟩
    exact ⟨parts, said, valued, found, made⟩
  · rintro ⟨parts, said, valued, found, made⟩
    exact ⟨parts, valued, said, found, made⟩

/-- A message with value has its row, which tells what is said at its position. -/
theorem exists_row {index : Nat} {said : ChainMessage} (place : messages[index]? = some message)
    (value : (reading.parts message).isSome = true) (told : reading.said index = some said) :
    ∃ rank, ∃ parts : SentParts,
      (reading.entry (message, index), rank) ∈ (reading.ordered messages).zipIdx ∧
      parts.row transaction reading.fee (transactionAborted reading.raw.descr) rank said ∈
        reading.items messages := by
  have entry : reading.entry (message, index) ∈ reading.ordered messages :=
    reading.mem_ordered.mpr ⟨_, List.mem_zipIdx_iff_getElem?.mpr place, rfl⟩
  obtain ⟨rank, placed⟩ := List.mem_iff_getElem?.mp entry
  have ranked : (reading.entry (message, index), rank) ∈ (reading.ordered messages).zipIdx :=
    List.mem_zipIdx_iff_getElem?.mpr placed
  obtain ⟨parts, valued⟩ := Option.isSome_iff_exists.mp value
  refine ⟨rank, parts, ranked, List.mem_append_right _ (List.mem_filterMap.mpr ⟨_, ranked, ?_⟩)⟩
  exact sentRow_eq_some.mpr ⟨parts, said, valued, told, rfl⟩

/-- Messages of one rank are the same. -/
theorem ranked_unique {first second : OrderedMessage × Nat}
    (left : first ∈ (reading.ordered messages).zipIdx)
    (right : second ∈ (reading.ordered messages).zipIdx) (same : first.2 = second.2) :
    first = second := by
  have found := List.mem_zipIdx_iff_getElem?.mp left
  rw [same, List.mem_zipIdx_iff_getElem?.mp right] at found
  exact Prod.ext (Option.some.inj found).symm same

theorem createdLogicalTime_of_ranked (member : ranked ∈ (reading.ordered messages).zipIdx) :
    ranked.1.createdLogicalTime = reading.created ranked.1.message := by
  obtain ⟨listed, -, same⟩ := reading.mem_ordered.mp (List.fst_mem_of_mem_zipIdx member)
  rw [← same]
  rfl

/-- The rows tell what their own messages say, when there is nothing to mix up. -/
theorem attributed_settled (settled : reading.valued transaction.outMsgs = [] ∨ reading.Uniform)
    (same : messages.Perm transaction.outMsgs) :
    Attributed services (transaction.listing messages) := by
  have listed : messages ⊆ transaction.outMsgs := fun _ => same.mem_iff.mp
  intro raw outgoing items readRaw readOrder readItems ranked member row own sent id message
    stored time created chainTime
  cases reading.readRaw.symm.trans readRaw
  cases (reading.orderedOutMessages_listing listed).symm.trans readOrder
  obtain ⟨-, rfl⟩ := (reading.transactionItems_listing listed).mp readItems
  obtain ⟨other, found, made⟩ := exists_ranked own sent
  obtain ⟨parts, said, valued, told, rfl⟩ := sentRow_eq_some.mp made
  obtain rfl : other = ranked := ranked_unique found member (rank_of_id id)
  have inside := reading.mem_of_ranked listed member
  rcases settled with empty | ⟨common, all, chain⟩
  · rw [parts_of_valued_nil empty inside] at valued
    cases valued
  · have index := all _ (same.length_eq ▸ originalIndex_lt member)
    have value : other.1.message ∈ reading.valued transaction.outMsgs :=
      List.mem_filter.mpr ⟨inside, by rw [valued]; rfl⟩
    rw [createdLogicalTime_of_ranked member] at created
    rw [tells_row_iff, chain message stored _ value time created chainTime]
    exact Option.some.inj (told.symm.trans index)

/-- Every order is accepted, with the same rows up to their order. -/
theorem accepted_of_orderFree (free : OrderFree services before after transaction)
    (readable : reading.Readable before after) (same : messages.Perm transaction.outMsgs) :
    (reading.Fits messages ∧
      (pageItems services (before ++ transaction.listing messages :: after)).isSome = true) ∧
        (reading.items messages).Perm (reading.items transaction.outMsgs) := by
  have heads := exists_except_mapM_iff.mpr fun other member =>
    readable.others other (List.mem_append_left after member)
  have tails := exists_except_mapM_iff.mpr fun other member =>
    readable.others other (List.mem_append_right before member)
  obtain ⟨heads, readHeads⟩ := heads
  obtain ⟨tails, readTails⟩ := tails
  -- With the messages with value in front the page is accepted, so it is in every order.
  let front := reading.valued transaction.outMsgs ++
    transaction.outMsgs.filter fun message => !(reading.parts message).isSome
  have frontSame : front.Perm transaction.outMsgs := List.filter_append_perm _ _
  have frontItems := (reading.transactionItems_listing fun _ => frontSame.mem_iff.mp).mpr
    ⟨reading.fits_valued_first readable.enough, rfl⟩
  have frontPage := pageItems_eq_some.mpr
    ⟨(pageCursor_listing front).symm ▸ readable.cursor, heads, _, tails, readHeads, frontItems,
      readTails, rfl⟩
  have whole : ∀ messages : List Message, messages.Perm transaction.outMsgs →
      (reading.Fits messages ∧
        (pageItems services (before ++ transaction.listing messages :: after)).isSome = true) ∧
          (reading.items messages).Perm (reading.items front) := by
    intro messages same
    have page := ((free messages same).1.trans (free front frontSame).1.symm).trans frontPage
    obtain ⟨-, otherHeads, rows, otherTails, first, own, last, equal⟩ := pageItems_eq_some.mp page
    cases readHeads.symm.trans first
    cases readTails.symm.trans last
    obtain ⟨fits, rfl⟩ := (reading.transactionItems_listing fun _ => same.mem_iff.mp).mp own
    have listed := (List.mergeSort_perm _ _).symm.trans ((List.Perm.of_eq equal).trans
      (List.mergeSort_perm _ _))
    rw [List.perm_append_right_iff, List.perm_append_left_iff] at listed
    exact ⟨⟨fits, by rw [page]; rfl⟩, listed.symm⟩
  obtain ⟨fits, rows⟩ := whole messages same
  exact ⟨fits, rows.trans (whole _ (.refl _)).2.symm⟩

/-- The message of a rank does not depend on the order of the list. -/
theorem message_of_rank (distinct : (transaction.outMsgs.map reading.created).Nodup)
    {others : List Message} (left : messages.Perm transaction.outMsgs)
    (right : others.Perm transaction.outMsgs) {first second : OrderedMessage × Nat}
    (firstMember : first ∈ (reading.ordered messages).zipIdx)
    (secondMember : second ∈ (reading.ordered others).zipIdx) (same : first.2 = second.2) :
    first.1.message = second.1.message := by
  have orders := (reading.map_message_ordered distinct left).trans
    (reading.map_message_ordered distinct right).symm
  have found := congrArg (·[first.2]?) orders
  simp only [List.getElem?_map, List.mem_zipIdx_iff_getElem?.mp firstMember] at found
  rw [same, List.mem_zipIdx_iff_getElem?.mp secondMember] at found
  exact Option.some.inj found

/-- A message with value at two positions of the list is paired with raw messages that say the
same. -/
theorem said_of_orderFree (distinct : (transaction.outMsgs.map reading.created).Nodup)
    (free : OrderFree services before after transaction) (readable : reading.Readable before after)
    {others : List Message} {first second : Nat} (value : (reading.parts message).isSome = true)
    (left : messages.Perm transaction.outMsgs) (right : others.Perm transaction.outMsgs)
    (firstPlace : messages[first]? = some message) (secondPlace : others[second]? = some message) :
    (reading.said first).isSome = true ∧ reading.said first = reading.said second := by
  obtain ⟨⟨fits, -⟩, rows⟩ := accepted_of_orderFree free readable left
  obtain ⟨-, otherRows⟩ := accepted_of_orderFree free readable right
  have told := fits (message, first) (List.mem_zipIdx_iff_getElem?.mpr firstPlace) value
  refine ⟨told, ?_⟩
  obtain ⟨said, found⟩ := Option.isSome_iff_exists.mp told
  -- The row of the message in the first order is a row in the second.
  obtain ⟨rank, parts, ranked, row⟩ := exists_row firstPlace value found
  have moved := (rows.trans otherRows.symm).mem_iff.mp row
  obtain ⟨other, otherRanked, otherMade⟩ := exists_ranked moved rfl
  obtain ⟨otherParts, otherSaid, -, otherFound, equal⟩ := sentRow_eq_some.mp otherMade
  -- It has the same rank, so it belongs to the same message, which stands at the second position.
  have hashes := congrArg ActivityRecord.transactionHash equal
  have ids := congrArg ActivityRecord.id equal
  dsimp only [SentParts.row] at hashes ids
  rw [hashes] at ids
  have own : other.1.message = message :=
    message_of_rank distinct right left otherRanked ranked (rank_of_id ids)
  have position : other.1.originalIndex = second := by
    obtain ⟨listed, stored, entered⟩ :=
      reading.mem_ordered.mp (List.fst_mem_of_mem_zipIdx otherRanked)
    rw [← entered] at own ⊢
    have here := List.mem_zipIdx_iff_getElem?.mp stored
    rw [show listed.1 = message from own] at here
    have nodup : others.Nodup := right.nodup_iff.mpr (List.Nodup.of_map _ distinct)
    exact (List.getElem?_inj (List.getElem?_eq_some_iff.mp here).1 nodup).mp
      (here.trans secondPlace.symm)
  rw [position] at otherFound
  have tells : Tells (otherParts.row transaction reading.fee
      (transactionAborted reading.raw.descr) other.2 otherSaid) said := by
    rw [equal]
    exact tells_row_iff.mpr rfl
  rw [found, otherFound, tells_row_iff.mp tells]

/-- An order of the messages in which one of them stands at a given position. -/
theorem exists_placed (member : message ∈ transaction.outMsgs) {index : Nat}
    (inside : index < transaction.outMsgs.length) :
    ∃ messages : List Message, messages.Perm transaction.outMsgs ∧
      messages[index]? = some message := by
  obtain ⟨front, back, split⟩ := List.append_of_mem member
  have rest : (message :: (front ++ back)).Perm transaction.outMsgs :=
    split ▸ List.perm_middle.symm
  have length := rest.length_eq
  rw [List.length_cons] at length
  refine ⟨(front ++ back).take index ++ message :: (front ++ back).drop index, ?_, ?_⟩
  · refine List.perm_middle.trans ?_
    rwa [List.take_append_drop]
  · have taken : ((front ++ back).take index).length = index := by
      rw [List.length_take]
      omega
    rw [List.getElem?_append_right (by omega), taken, Nat.sub_self]
    rfl

theorem uniform_of_orderFree (distinct : (transaction.outMsgs.map reading.created).Nodup)
    (free : OrderFree services before after transaction)
    (readable : reading.Readable before after)
    (some : reading.valued transaction.outMsgs ≠ []) : reading.Uniform := by
  obtain ⟨message, listed⟩ := List.exists_mem_of_ne_nil _ some
  obtain ⟨member, value⟩ := List.mem_filter.mp listed
  have filled : 0 < transaction.outMsgs.length := List.length_pos_of_mem member
  obtain ⟨start, startSame, startPlace⟩ := exists_placed member filled
  have constant : ∀ index < transaction.outMsgs.length,
      (reading.said index).isSome = true ∧ reading.said index = reading.said 0 := by
    intro index inside
    obtain ⟨messages, same, place⟩ := exists_placed member inside
    exact said_of_orderFree distinct free readable value same startSame place startPlace
  obtain ⟨common, found⟩ := Option.isSome_iff_exists.mp (constant 0 filled).1
  have all : ∀ index < transaction.outMsgs.length, reading.said index = .some common :=
    fun index inside => (constant index inside).2.trans found
  refine ⟨common, all, fun raw stored other otherListed time created chainTime => ?_⟩
  -- The row of the other message tells what is common, and it is attributed to the raw message.
  obtain ⟨otherMember, otherValue⟩ := List.mem_filter.mp otherListed
  obtain ⟨index, place⟩ := List.mem_iff_getElem?.mp otherMember
  have inside := (List.getElem?_eq_some_iff.mp place).1
  obtain ⟨⟨fits, accepted⟩, -⟩ := accepted_of_orderFree free readable (.refl transaction.outMsgs)
  have whole : transaction.outMsgs ⊆ transaction.outMsgs := fun _ => id
  obtain ⟨rank, parts, ranked, row⟩ := exists_row place otherValue (all index inside)
  have attributed := (free _ (.refl _)).2 accepted reading.raw _ _ reading.readRaw
    (reading.orderedOutMessages_listing whole)
    ((reading.transactionItems_listing whole).mpr ⟨fits, rfl⟩) _ ranked _ row rfl rfl raw stored
    time created chainTime
  exact (tells_row_iff.mp attributed).symm

end Reading

theorem nodup_created (reading : Reading services transaction)
    (distinct : (transaction.outMsgs.map createdTime).Nodup) :
    (transaction.outMsgs.map reading.created).Nodup := by
  have times : transaction.outMsgs.map createdTime =
      (transaction.outMsgs.map reading.created).map .ok := by
    rw [List.map_map]
    exact List.map_congr_left reading.readCreated
  rw [times] at distinct
  exact List.Nodup.of_map _ distinct

/-- A page that is accepted in one order of the messages can be read. -/
theorem readable_of_pageItems {messages : List Message}
    (same : messages.Perm transaction.outMsgs) {rows : List ActivityRecord}
    (accepted : pageItems services (before ++ transaction.listing messages :: after) =
      some rows) : ∃ reading : Reading services transaction, reading.Readable before after := by
  obtain ⟨cursor, heads, items, tails, readHeads, read, readTails, -⟩ :=
    pageItems_eq_some.mp accepted
  obtain ⟨reading⟩ := exists_reading same read
  have fits := ((reading.transactionItems_listing fun _ => same.mem_iff.mp).mp read).1
  refine ⟨reading, pageCursor_listing messages ▸ cursor, fun other member => ?_, ?_⟩
  · rcases List.mem_append.mp member with front | back
    · exact exists_except_mapM_iff.mp ⟨heads, readHeads⟩ other front
    · exact exists_except_mapM_iff.mp ⟨tails, readTails⟩ other back
  · have counted := reading.length_valued_le fits
    rwa [Reading.valued, (same.filter _).length_eq] at counted

section Plain

/-- A message created at a time, with a body that is a comment of one letter. -/
def plainRaw (time : Nat) (letter : Nat) : TonMessage :=
  ⟨.int false time, .mk (natBits 32 0 ++ natBits 8 letter) []⟩

/-- Readers for which a raw transaction sent two messages with the given letters. -/
def letterServices (first second : Nat) : Services where
  hashFrom text := some ⟨text⟩
  parseAddress _ := some ⟨0, 1⟩
  fromBocBase64 _ := .ok ⟨.ord false, none, [plainRaw 1 first, plainRaw 2 second]⟩
  fromUtf8Lossy bytes := String.ofList (bytes.map fun byte => Char.ofNat byte.toNat)
  toBoc _ := none

theorem machine_one : 1 < 2 ^ 64 := by decide

/-- A message of one nanogram in the provider's list. -/
def plainMessage (time : Nat) (machine : time < 2 ^ 64) : Message :=
  ⟨none, some (.num (.posInt time machine)), .null, .str "receiver", .num (.posInt 1 machine_one)⟩

/-- A transaction whose messages are listed the later one first. -/
def letterTransaction : Transaction :=
  { Feed.plainTransaction with
    inMsg := none
    outMsgs := [plainMessage 2 (by decide), plainMessage 1 machine_one] }

def letterRow (rank : Nat) (letter : String) : ActivityRecord :=
  ⟨"hash:sent:" ++ toString rank, ⟨"hash"⟩, 5, 1, .sent, 1, 0, .success, some letter, none,
    some ⟨0, 1⟩⟩

theorem orderedOutMessages_letters (first second : Nat) :
    orderedOutMessages (letterServices first second) letterTransaction =
      .ok [⟨some 1, none, 1, plainMessage 1 (by decide)⟩,
        ⟨some 2, none, 0, plainMessage 2 (by decide)⟩] := by
  refine except_bind_eq_ok.mpr ⟨[⟨some 2, none, 0, plainMessage 2 (by decide)⟩,
    ⟨some 1, none, 1, plainMessage 1 (by decide)⟩], rfl, ?_⟩
  rw [mergeSort_pair]
  rfl

/-- The rows have the letters at the positions of the list, not those of their messages. -/
theorem transactionItems_letters :
    transactionItems (letterServices 97 98) letterTransaction =
      .ok [letterRow 0 "b", letterRow 1 "a"] := by
  unfold transactionItems
  rw [orderedOutMessages_letters]
  rfl

theorem distinct_letters : (letterTransaction.outMsgs.map createdTime).Nodup := by
  have times : letterTransaction.outMsgs.map createdTime = [.ok (some 2), .ok (some 1)] := rfl
  rw [times]
  simp

end Plain

/-- The rows of a page do not depend on the order in which the provider lists the messages of a
transaction exactly when, if the page can be read at all, no message has value or the raw
messages that they could be paired with all say the same. -/
theorem rows_order_free_iff (distinct : (transaction.outMsgs.map createdTime).Nodup) :
    OrderFree services before after transaction ↔ ∀ reading : Reading services transaction,
      reading.Readable before after →
        reading.valued transaction.outMsgs = [] ∨ reading.Uniform := by
  constructor
  · intro free reading readable
    by_cases none : reading.valued transaction.outMsgs = []
    · exact .inl none
    · exact .inr (Reading.uniform_of_orderFree (nodup_created reading distinct) free readable none)
  · intro settled messages same
    have whole : transaction.listing transaction.outMsgs = transaction := rfl
    -- Accepted in one order, the page has the same rows in any other.
    have keeps : ∀ first second : List Message, first.Perm transaction.outMsgs →
        second.Perm transaction.outMsgs → ∀ rows,
        pageItems services (before ++ transaction.listing first :: after) = some rows →
        pageItems services (before ++ transaction.listing second :: after) = some rows := by
      intro first second firstSame secondSame rows accepted
      obtain ⟨reading, readable⟩ := readable_of_pageItems firstSame accepted
      have apart := nodup_created reading distinct
      obtain ⟨-, firstItems⟩ := reading.items_settled apart (settled reading readable) firstSame
      obtain ⟨fits, secondItems⟩ :=
        reading.items_settled apart (settled reading readable) secondSame
      obtain ⟨cursor, heads, items, tails, readHeads, read, readTails, equal⟩ :=
        pageItems_eq_some.mp accepted
      obtain ⟨-, rfl⟩ := (reading.transactionItems_listing fun _ => firstSame.mem_iff.mp).mp read
      have own := (reading.transactionItems_listing fun _ => secondSame.mem_iff.mp).mpr
        ⟨fits, secondItems.symm ▸ firstItems⟩
      refine pageItems_eq_some.mpr ⟨?_, heads, _, tails, readHeads, own, readTails, equal⟩
      rw [pageCursor_listing] at cursor ⊢
      exact cursor
    refine ⟨Option.ext fun rows => ⟨?_, ?_⟩, fun accepted => ?_⟩
    · exact keeps messages transaction.outMsgs same (.refl _) rows
    · exact keeps transaction.outMsgs messages (.refl _) same rows
    · obtain ⟨rows, accepted⟩ := Option.isSome_iff_exists.mp accepted
      obtain ⟨reading, readable⟩ := readable_of_pageItems same accepted
      exact reading.attributed_settled (settled reading readable) same

theorem rows_order_free_letters :
    (letterTransaction.outMsgs.map createdTime).Nodup ∧
      (OrderFree (letterServices 97 97) [] [] letterTransaction ↔
        ∀ reading : Reading (letterServices 97 97) letterTransaction, reading.Readable [] [] →
          reading.valued letterTransaction.outMsgs = [] ∨ reading.Uniform) :=
  ⟨distinct_letters, rows_order_free_iff distinct_letters⟩

/-- Of two messages that are listed the later one first, each row has the comment of the other
message. -/
theorem rows_mixed_up :
    transactionItems (letterServices 97 98) letterTransaction =
        .ok [letterRow 0 "b", letterRow 1 "a"] ∧
      ¬ OrderFree (letterServices 97 98) [] [] letterTransaction := by
  refine ⟨transactionItems_letters, fun free => ?_⟩
  have accepted : (pageItems (letterServices 97 98) [letterTransaction]).isSome = true := by
    have page : pageItems (letterServices 97 98) ([] ++ letterTransaction :: []) = some
        (([] ++ [letterRow 0 "b", letterRow 1 "a"] ++ []).mergeSort activityRecordBefore) :=
      pageItems_eq_some.mpr ⟨⟨some (5, ⟨"hash"⟩), rfl⟩, [], _, [], rfl,
        transactionItems_letters, rfl, rfl⟩
    exact Option.isSome_iff_exists.mpr ⟨_, page⟩
  have attributed := (free letterTransaction.outMsgs (.refl _)).2 accepted
  have tells := attributed _ _ _ rfl (orderedOutMessages_letters 97 98) transactionItems_letters
    (⟨some 1, none, 1, plainMessage 1 (by decide)⟩, 0) (by simp [List.zipIdx])
    (letterRow 0 "b") (by simp) rfl rfl (plainRaw 1 97) (by simp) 1 rfl rfl
  have comments : some "b" = some "a" := tells.comment
  exact absurd comments (by decide)

end Pages

end Provider

end WalletEngine
