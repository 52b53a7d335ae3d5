import WalletEngine.Engine.PublicCall
import WalletEngine.Wallet.Reducer

/-! # What an operation knows

Facts an operation can read off its own log: which records it has seen, which of
its writes were applied, what the provider answered and in which order. They only
grow with the log, so they hold however the other operations interleave. -/

namespace WalletEngine

variable {P : Platform}

/-- The observations of one operation, newest first. -/
abbrev Log (P : Platform) := Trace State (walletHost P)

section Observations

variable (log : Log P)

/-- The host answered a call. -/
def Answered (call : HostCall P) (answer : HostCall.Answer P call) : Prop :=
  (.answered call answer : Observation State (walletHost P)) ∈ log

/-- A lock region ran from one state to another. -/
def Held (before after : State) : Prop :=
  (.locked before after : Observation State (walletHost P)) ∈ log

def Configured (config : WalletClientConfig) : Prop :=
  ∃ before after, Held log before after ∧ before.config = config

/-- The operation took a send generation. -/
def ReservedSend (generation : Nat) : Prop :=
  ∃ before after, Held log before after ∧ before.sendGeneration < generation ∧
    after.sendGeneration = generation

/-- The host reported a compare-exchange as applied. -/
def Applied (mutation : JournalCompareExchange P.codec.Payload) : Prop :=
  ∃ result, Answered log (.compareExchangeJournal mutation) (.ok result) ∧ result.applied = true

/-- The exchange stores a message that is about to be handed over. -/
def Commits (mutation : JournalCompareExchange P.codec.Payload) : Prop :=
  ∃ durable, decodeDurableRecord P.codec mutation.replacement = .ok durable ∧
    (durable.stage = .readyToSubmit ∨ durable.stage = .handedOff)

/-- The operation has not tried to store a message of its own. -/
def Uncommitted : Prop :=
  ∀ (mutation : JournalCompareExchange P.codec.Payload) answer,
    Answered log (.compareExchangeJournal mutation) answer → ¬ Commits mutation

/-- A refused compare-exchange showed the record of a competing writer. -/
def Refused (mutation : JournalCompareExchange P.codec.Payload)
    (record : JournalRecord P.codec.Payload) : Prop :=
  ∃ result, Answered log (.compareExchangeJournal mutation) (.ok result) ∧
    result.applied = false ∧ result.current = some record

/-- The operation saw a record in a journal slot, or put it there. -/
def Seen (key : JournalKey) (record : JournalRecord P.codec.Payload) : Prop :=
  Answered log (.loadJournal key) (.ok (some record)) ∨
    ∃ mutation : JournalCompareExchange P.codec.Payload, mutation.key = key ∧
      (Applied log mutation ∧ mutation.replacement = record ∨ Refused log mutation record)

/-- An answer of the provider, as its parser reads it. -/
def Shown {α : Type} (endpoint : Endpoint) (parse : P.serde.Body → Except DomainError α)
    (value : α) : Prop :=
  ∃ request body, request.endpoint = endpoint ∧ Answered log (.execute request) (.ok body) ∧
    parse body = .ok value

/-- As `Shown`, for an answer that arrived once `earlier` was known. -/
def ShownAfter {α : Type} (earlier : Log P → Prop) (endpoint : Endpoint)
    (parse : P.serde.Body → Except DomainError α) (value : α) : Prop :=
  ∃ older, earlier older ∧ ∃ request body, request.endpoint = endpoint ∧
    parse body = .ok value ∧
    ((.answered (.execute request) (.ok body) : Observation State (walletHost P)) :: older) <:+ log

end Observations

section Growth

variable {log later : Log P}
variable {call : HostCall P} {answer : HostCall.Answer P call} {generation : Nat}
  {earlier : Log P → Prop}

theorem Answered.mono (known : Answered log call answer) (grows : log <:+ later) :
    Answered later call answer :=
  grows.subset known

theorem Held.mono {before after : State} (known : Held log before after) (grows : log <:+ later) :
    Held later before after :=
  grows.subset known

theorem Configured.mono {config : WalletClientConfig} (known : Configured log config)
    (grows : log <:+ later) : Configured later config := by
  obtain ⟨before, after, held, same⟩ := known
  exact ⟨before, after, held.mono grows, same⟩

theorem not_reservedSend_nil : ¬ ReservedSend ([] : Log P) generation := by
  rintro ⟨before, after, held, _⟩
  exact List.not_mem_nil held

theorem ReservedSend.mono (known : ReservedSend log generation) (grows : log <:+ later) :
    ReservedSend later generation := by
  obtain ⟨before, after, held, taken⟩ := known
  exact ⟨before, after, held.mono grows, taken⟩

/-- An answer reserves nothing. -/
theorem ReservedSend.of_answered
    (known : ReservedSend ((.answered call answer : Observation State (walletHost P)) :: log)
      generation) : ReservedSend log generation := by
  obtain ⟨before, after, held, taken⟩ := known
  exact ⟨before, after, (List.mem_cons.mp held).resolve_left nofun, taken⟩

theorem uncommitted_nil : Uncommitted ([] : Log P) :=
  fun _ _ answered => absurd answered List.not_mem_nil

theorem Uncommitted.locked {before after : State} (free : Uncommitted log) :
    Uncommitted ((.locked before after : Observation State (walletHost P)) :: log) :=
  fun mutation answer answered =>
    free mutation answer ((List.mem_cons.mp answered).resolve_left nofun)

theorem Uncommitted.answered (free : Uncommitted log)
    (spares : ∀ mutation, call = .compareExchangeJournal mutation → ¬ Commits mutation) :
    Uncommitted ((.answered call answer : Observation State (walletHost P)) :: log) := by
  intro mutation result answered
  rcases List.mem_cons.mp answered with same | earlier
  · cases same
    exact spares mutation rfl
  · exact free mutation result earlier

variable {mutation : JournalCompareExchange P.codec.Payload}
  {record : JournalRecord P.codec.Payload}

theorem Applied.mono (known : Applied log mutation) (grows : log <:+ later) :
    Applied later mutation := by
  obtain ⟨result, answered, applied⟩ := known
  exact ⟨result, answered.mono grows, applied⟩

theorem Refused.mono (known : Refused log mutation record) (grows : log <:+ later) :
    Refused later mutation record := by
  obtain ⟨result, answered, refused⟩ := known
  exact ⟨result, answered.mono grows, refused⟩

theorem Seen.mono {key : JournalKey} (known : Seen log key record) (grows : log <:+ later) :
    Seen later key record := by
  rcases known with loaded | ⟨mutation, sameKey, written | refused⟩
  · exact .inl (loaded.mono grows)
  · exact .inr ⟨mutation, sameKey, .inl ⟨written.1.mono grows, written.2⟩⟩
  · exact .inr ⟨mutation, sameKey, .inr (refused.mono grows)⟩

variable {α : Type} {endpoint : Endpoint} {parse : P.serde.Body → Except DomainError α} {value : α}

theorem Shown.mono (known : Shown log endpoint parse value) (grows : log <:+ later) :
    Shown later endpoint parse value := by
  obtain ⟨request, body, asked, answered, parsed⟩ := known
  exact ⟨request, body, asked, answered.mono grows, parsed⟩

theorem ShownAfter.mono (known : ShownAfter log earlier endpoint parse value)
    (grows : log <:+ later) : ShownAfter later earlier endpoint parse value := by
  obtain ⟨older, before, request, body, asked, parsed, suffix⟩ := known
  exact ⟨older, before, request, body, asked, parsed, suffix.trans grows⟩

theorem ShownAfter.shown (known : ShownAfter log earlier endpoint parse value) :
    Shown log endpoint parse value := by
  obtain ⟨older, _, request, body, asked, parsed, suffix⟩ := known
  exact ⟨request, body, asked, suffix.subset List.mem_cons_self, parsed⟩

theorem ShownAfter.imp {weaker : Log P → Prop} (known : ShownAfter log earlier endpoint parse value)
    (implied : ∀ older, earlier older → weaker older) :
    ShownAfter log weaker endpoint parse value := by
  obtain ⟨older, before, rest⟩ := known
  exact ⟨older, implied older before, rest⟩

end Growth

section Evidence

variable (log : Log P) (config : WalletClientConfig)

/-- What the provider showed about the fate of a signed message. -/
inductive Evidence (durable : DurableSendRecord) : SendResolution → Prop
  | confirmed (executed : ExecutedMessage) (external : durable.kind = .external)
      (found : Shown log (.transactionsByMessage durable.messageHash)
        (parseExecutedMessage P.serde P.hashFrom) (some executed)) :
      Evidence durable (.confirmed executed.transactionHash executed.transactionLt)
  | replaced (seqno : Nat) (external : durable.kind = .external) (passed : durable.seqno < seqno)
      (absent : ShownAfter log
        (Shown · (.walletStates config.address) (parseWalletSeqno P.serde) seqno)
        (.transactionsByMessage durable.messageHash) (parseExecutedMessage P.serde P.hashFrom)
        none) : Evidence durable .replaced
  | consumed (seqno : Nat) (internal : durable.kind = .internal) (passed : durable.seqno < seqno)
      (shown : Shown log (.walletStates config.address) (parseWalletSeqno P.serde) seqno) :
      Evidence durable .sequenceNumberConsumed
  | expired (account : AccountSnapshot) (external : durable.kind = .external)
      (past : resolutionWindowExpired account.syncUtime durable.validUntil
        config.resolutionMarginSeconds = true)
      (absent : ShownAfter log
        (Shown · (.getAddressInformation config.address) (parseAccount P.serde) account)
        (.transactionsByMessage durable.messageHash) (parseExecutedMessage P.serde P.hashFrom)
        none) : Evidence durable .expired
  | expiredInternal (account : AccountSnapshot) (seqno : Nat) (internal : durable.kind = .internal)
      (past : resolutionWindowExpired account.syncUtime durable.validUntil
        config.resolutionMarginSeconds = true)
      (unused : seqno ≤ durable.seqno)
      (shown : ShownAfter log
        (Shown · (.getAddressInformation config.address) (parseAccount P.serde) account)
        (.walletStates config.address) (parseWalletSeqno P.serde) seqno) :
      Evidence durable .expired

/-- The slot that holds the send record of a wallet. -/
def sendKey (config : WalletClientConfig) : JournalKey := ⟨config.recordId.value, sendSlot⟩

/-- A record of the configured wallet that the operation saw in its slot. -/
def Inspected (record : JournalRecord P.codec.Payload) (durable : DurableSendRecord) : Prop :=
  Seen log (sendKey config) record ∧
    decodeOwnedRecord P.codec record config.recordId config.address = .ok durable

/-- Why an operation holds that a pending send has a resolution. -/
inductive Conclusion (durable : DurableSendRecord) (resolution : SendResolution) : Prop
  | undecided (reason : PendingReason) (same : resolution = .stillPending reason)
  | evidence (shown : Evidence log config durable resolution)
  /-- The write of a resolution lost, and the winning record was taken over. -/
  | adopted (mutation : JournalCompareExchange P.codec.Payload)
      (attempt : DurableSendRecord) (tried : SendResolution)
      (record : JournalRecord P.codec.Payload) (winner : DurableSendRecord)
      (attempted : decodeDurableRecord P.codec mutation.replacement = .ok attempt)
      (settles : attempt.Shows tried)
      (sameOperation : attempt.operationId = durable.operationId)
      (sameMessage : attempt.messageHash = durable.messageHash)
      (refused : Refused log mutation record)
      (decoded : decodeOwnedRecord P.codec record config.recordId config.address = .ok winner)
      (shows : winner.Shows resolution)

variable {log config} {later : Log P} {durable : DurableSendRecord} {resolution : SendResolution}

theorem Evidence.mono (known : Evidence log config durable resolution) (grows : log <:+ later) :
    Evidence later config durable resolution := by
  cases known with
  | confirmed executed external found => exact .confirmed executed external (found.mono grows)
  | replaced seqno external passed absent =>
    exact .replaced seqno external passed (absent.mono grows)
  | consumed seqno internal passed shown =>
    exact .consumed seqno internal passed (shown.mono grows)
  | expired account external past absent => exact .expired account external past (absent.mono grows)
  | expiredInternal account seqno internal past unused shown =>
    exact .expiredInternal account seqno internal past unused (shown.mono grows)

/-- Confirmation evidence fits the record that stores it. -/
theorem Evidence.lt_bound (known : Evidence log config durable resolution) :
    ∀ hash lt, resolution = .confirmed hash lt → lt < u64Bound := by
  rintro hash lt rfl
  cases known with
  | confirmed executed external found =>
    obtain ⟨_, _, _, _, parsed⟩ := found
    exact parseExecutedMessage_lt _ _ parsed

theorem Inspected.mono {record : JournalRecord P.codec.Payload}
    (known : Inspected log config record durable) (grows : log <:+ later) :
    Inspected later config record durable :=
  ⟨known.1.mono grows, known.2⟩

theorem Conclusion.mono (known : Conclusion log config durable resolution)
    (grows : log <:+ later) : Conclusion later config durable resolution := by
  cases known with
  | undecided reason same => exact .undecided reason same
  | evidence shown => exact .evidence (shown.mono grows)
  | adopted mutation attempt tried record winner attempted settles sameOperation sameMessage refused
      decoded shows =>
    exact .adopted mutation attempt tried record winner attempted settles sameOperation sameMessage
      (refused.mono grows) decoded shows

end Evidence

end WalletEngine
