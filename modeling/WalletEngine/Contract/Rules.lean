import WalletEngine.Contract.Knowledge

/-! # The rules every operation follows

For each public call, which changes of the client state and which host calls its
operation may make, given its own log. The rules name every way a send slot, a
journal slot or the shown snapshot changes; the safety results use nothing else
about the operations. -/

namespace WalletEngine

variable {P : Platform}

section States

/-- The part of a client state that decides who may sign and what is shown. -/
structure Tracked where
  config : WalletClientConfig
  send : Slot
  resolution : Slot
  sendGeneration : Nat
  resolutionGeneration : Nat
  committed : Bool
  shutdown : Bool
  shown : SendSnapshot

def State.tracked (state : State) : Tracked where
  config := state.config
  send := state.activeSend
  resolution := state.activeResolution
  sendGeneration := state.sendGeneration
  resolutionGeneration := state.resolutionGeneration
  committed := state.sendCommitStarted
  shutdown := state.shutdown
  shown := state.snapshot.send

/-- The commit of a send generation has begun, and its slot was not cleared. -/
def Tracked.Committed (tracked : Tracked) (generation : Nat) : Prop :=
  (∃ ids, tracked.send = some (generation, ids)) ∧ tracked.committed = true

/-- The phases that report a resolver terminal. -/
def SendPhase.isResolved : SendPhase → Bool
  | .confirmed | .replaced | .sequenceNumberConsumed | .expired => true
  | _ => false

variable (log : Log P)

/-- Where a shown resolution comes from: the resolver, or a stored record. -/
inductive Concluded : SendSnapshot → Prop
  | resolved (config : WalletClientConfig) (pending : PendingSendRecord P.codec)
      (resolution : SendResolution) (configured : Configured log config)
      (inspected : Inspected log config pending.journal pending.durable)
      (unsettled : pending.durable.stage.permitsReplacement = false)
      (why : Conclusion log config pending.durable resolution) :
      Concluded (pending.snapshot resolution)
  | stored (config : WalletClientConfig) (record : JournalRecord P.codec.Payload)
      (snapshot : SendSnapshot) (configured : Configured log config)
      (seen : Seen log (sendKey config) record)
      (read : sendSnapshotFromJournal P.codec record config.recordId config.address =
        .ok snapshot) : Concluded snapshot

def Presentable (snapshot : SendSnapshot) : Prop :=
  snapshot.phase.isResolved = false ∨ Concluded log snapshot

variable (call : PublicCall)

/-- Every way a lock region changes the tracked state. -/
inductive StateMove (before : Tracked) : Tracked → Prop
  | untouched : StateMove before before
  | countSend (first : ∀ generation, ¬ ReservedSend log generation)
      (idle : before.send = none) (free : before.resolution = none) :
      StateMove before { before with sendGeneration := before.sendGeneration + 1 }
  | reserveSend (snapshot : SendSnapshot)
      (first : ∀ generation, ¬ ReservedSend log generation) (idle : before.send = none)
      (free : before.resolution = none) (running : before.shutdown = false)
      (starts : snapshot.phase = .validating) : StateMove before { before with
        sendGeneration := before.sendGeneration + 1
        send := some (before.sendGeneration + 1, [])
        committed := false
        shown := snapshot }
  | trackSend (generation : Nat) (ids tracked : List HttpRequestId)
      (reserved : ReservedSend log generation) (active : before.send = some (generation, ids)) :
      StateMove before { before with send := some (generation, tracked) }
  | showSend (generation : Nat) (ids : List HttpRequestId) (snapshot : SendSnapshot)
      (reserved : ReservedSend log generation) (active : before.send = some (generation, ids))
      (presentable : Presentable log snapshot) (live : snapshot.phase ≠ .cancelled) :
      StateMove before { before with shown := snapshot }
  | beginCommit (generation : Nat) (ids : List HttpRequestId)
      (reserved : ReservedSend log generation) (active : before.send = some (generation, ids))
      (running : before.shutdown = false) : StateMove before { before with committed := true }
  | releaseSend (generation : Nat) (ids : List HttpRequestId) (snapshot : SendSnapshot)
      (reserved : ReservedSend log generation) (active : before.send = some (generation, ids))
      (presentable : Presentable log snapshot) : StateMove before { before with
        send := none, committed := false, shown := snapshot }
  | countResolution (idle : before.send = none) (free : before.resolution = none) :
      StateMove before { before with resolutionGeneration := before.resolutionGeneration + 1 }
  | reserveResolution (idle : before.send = none) (free : before.resolution = none) :
      StateMove before { before with
        resolutionGeneration := before.resolutionGeneration + 1
        resolution := some (before.resolutionGeneration + 1, []) }
  | trackResolution (generation : Nat) (ids tracked : List HttpRequestId)
      (active : before.resolution = some (generation, ids)) :
      StateMove before { before with resolution := some (generation, tracked) }
  | releaseResolution (generation : Nat) (ids : List HttpRequestId) (snapshot : SendSnapshot)
      (active : before.resolution = some (generation, ids))
      (presentable : snapshot = before.shown ∨ Presentable log snapshot) :
      StateMove before { before with resolution := none, shown := snapshot }
  | cancel (snapshot : SendSnapshot) (asked : call = .cancelSend)
      (early : ¬ (before.send.isSome ∧ before.committed = true))
      (presentable : snapshot = before.shown ∨ snapshot.phase = .cancelled) :
      StateMove before { before with send := none, committed := false, shown := snapshot }
  | stop (rounds : Nat) (snapshot : SendSnapshot) (asked : call = .shutdown rounds)
      (early : ¬ (before.send.isSome ∧ before.committed = true))
      (presentable : snapshot = before.shown ∨ snapshot.phase = .cancelled) :
      StateMove before { before with
        send := none, resolution := none, committed := false, shutdown := true, shown := snapshot }

end States

section Calls

variable (log : Log P)

/-- The operation began the commit of its generation and has not left it. -/
def CommitHeld (generation : Nat) : Prop :=
  ∃ newer before after older,
    log = newer ++ (.locked before after : Observation State (walletHost P)) :: older ∧
    ReservedSend older generation ∧ after.tracked.Committed generation ∧
    ∀ earlier later, Held newer earlier later → earlier.tracked.Committed generation →
      later.tracked.Committed generation

namespace PublicCall

/-- The explicit override of an unresolved record. -/
def force : PublicCall → Bool
  | .send request => request.force
  | .signMessage request => request.force
  | .sendBoc request => request.force
  | .sendNftTransfer request => request.force
  | _ => false

def operationId : PublicCall → Option NonEmptyString
  | .send request => some request.operationId
  | .signMessage request => some request.operationId
  | .sendBoc request => some request.operationId
  | .sendNftTransfer request => some request.operationId
  | _ => none

variable (P) in
/-- A message signed by the configured wallet for a request. -/
def Signed (kind : SignedMessageKind) (config : WalletClientConfig) (request : SendRequest)
    (prepared : PreparedTransfer) : Prop :=
  ∃ secret fresh validUntil, prepareSigned P.crypto kind secret config.recordId config.address
    config.network request fresh validUntil = .ok prepared

variable (P) in
/-- The signed message of a call: signed by the wallet for this request, or taken
from it. -/
def Prepares (call : PublicCall) (config : WalletClientConfig) (prepared : PreparedTransfer) :
    Prop :=
  match call with
  | .send request => Signed P .external config request prepared
  | .sendNftTransfer request => ∃ source canonical,
      canonicalizeNftTransfer P.keys request.operationId source request.intent = .ok canonical ∧
        Signed P .external config ⟨request.operationId, request.force, canonical⟩ prepared
  | .signMessage request => Signed P .internal config
      ⟨request.operationId, request.force, request.intent⟩ prepared
  | .sendBoc request =>
    prepareSignedBoc P.crypto config.recordId config.address request = .ok prepared
  | _ => False

theorem Signed.fields {kind : SignedMessageKind} {config : WalletClientConfig}
    {request : SendRequest} {prepared : PreparedTransfer}
    (signed : Signed P kind config request prepared) :
    some request.operationId = some prepared.operationId ∧ prepared.recordId = config.recordId ∧
      prepared.source = config.address := by
  obtain ⟨secret, fresh, validUntil, ok⟩ := signed
  obtain ⟨sameOperation, sameId, sameSource, _⟩ := prepareSigned_ok ok
  exact ⟨congrArg some sameOperation.symm, sameId, sameSource⟩

/-- A prepared message belongs to its call and to the configured wallet. -/
theorem Prepares.fields {call : PublicCall} {config : WalletClientConfig}
    {prepared : PreparedTransfer} (prepares : call.Prepares P config prepared) :
    call.operationId = some prepared.operationId ∧ prepared.recordId = config.recordId ∧
      prepared.source = config.address := by
  cases call with
  | send request => exact Signed.fields prepares
  | sendNftTransfer request =>
    obtain ⟨source, canonical, _, signed⟩ := prepares
    exact signed.fields
  | signMessage request => exact Signed.fields prepares
  | sendBoc request =>
    obtain ⟨sameOperation, sameId, sameSource, _⟩ := prepareSignedBoc_ok prepares
    exact ⟨congrArg some sameOperation.symm, sameId, sameSource⟩
  | _ => exact prepares.elim

end PublicCall

/-- The stage a message is first stored with. -/
def SignedMessageKind.commitStage : SignedMessageKind → SendStage
  | .external => .readyToSubmit
  | .internal => .handedOff

/-- The stage an answer to the submission leads to. -/
def submissionStage : Except DomainError SendBocResponse → SendStage
  | .ok .accepted => .submitted
  | .ok (.rejected _) => .failed
  | .error error => if isExplicitSendRejection error then .failed else .submissionUnknown

variable (call : PublicCall)

/-- A call stored its own message and still holds the commit of its generation. -/
structure Stored (generation : Nat) (config : WalletClientConfig) (prepared : PreparedTransfer)
    (mutation : JournalCompareExchange P.codec.Payload) : Prop where
  configured : Configured log config
  prepares : call.Prepares P config prepared
  stores : ∃ expected, mutation.Stores expected
    (prepared.durable prepared.kind.commitStage none none)
  applied : Applied log mutation
  held : CommitHeld log generation

/-- A returned internal message is one that was stored as handed off. -/
structure HandedOff (result : SignMessageResult) (config : WalletClientConfig)
    (prepared : PreparedTransfer) (mutation : JournalCompareExchange P.codec.Payload) : Prop where
  prepares : call.Prepares P config prepared
  stores : ∃ expected, mutation.Stores expected (prepared.durable .handedOff none none)
  applied : Applied log mutation
  operationId : prepared.operationId = result.operationId
  internalBoc : prepared.signedBoc = result.internalBoc
  validUntil : prepared.validUntil = result.validUntil

/-- The compare-exchanges an operation performs. -/
inductive JournalMove (mutation : JournalCompareExchange P.codec.Payload) : Prop
  /-- Record the resolution of an unsettled message. -/
  | resolve (config : WalletClientConfig) (pending : PendingSendRecord P.codec)
      (subject : PendingSendRecord P.codec) (resolution : SendResolution)
      (durable : DurableSendRecord) (configured : Configured log config)
      (inspected : Inspected log config pending.journal pending.durable)
      (unsettled : pending.durable.stage.permitsReplacement = false)
      (examined : Inspected log config subject.journal subject.durable)
      (sameOperation : subject.operationId = pending.operationId)
      (sameMessage : subject.messageHash = pending.messageHash)
      (evidence : Evidence log config subject.durable resolution)
      (resolved : pending.resolved resolution = some durable)
      (stores : mutation.Stores (some pending.journal.version) durable)
  /-- Store a new signed message. -/
  | commit (config : WalletClientConfig) (prepared : PreparedTransfer)
      (base : Option (JournalRecord P.codec.Payload)) (configured : Configured log config)
      (prepares : call.Prepares P config prepared) (first : Uncommitted log)
      (based : ∀ record ∈ base, ∃ durable, Inspected log config record durable ∧
        (durable.stage.permitsReplacement = true ∨
          call.force = true ∧ durable.stage.permitsForcedReplacement = true))
      (stores : mutation.Stores (base.map (·.version))
        (prepared.durable prepared.kind.commitStage none none))
      (generation : Nat) (held : CommitHeld log generation)
  /-- Record what came of the submission. -/
  | settle (generation : Nat) (config : WalletClientConfig) (prepared : PreparedTransfer)
      (first : JournalCompareExchange P.codec.Payload) (request : HttpRequest)
      (answer : Except DomainError P.serde.Body) (reference diagnostic : Option String)
      (external : prepared.kind = .external)
      (stored : Stored log call generation config prepared first)
      (submitted : request.endpoint = .sendBoc prepared.signedBoc)
      (answered : Answered log (.execute request) answer)
      (stores : mutation.Stores (some first.replacement.version)
        (prepared.durable (submissionStage (answer.bind (parseSendResponse P.serde)))
          reference diagnostic))

/-- The host calls an operation makes. -/
def CallMove : HostCall P → Prop
  | .compareExchangeJournal mutation => JournalMove log call mutation
  | .execute request => ∀ boc, request.endpoint = .sendBoc boc →
      ∃ generation config prepared mutation, prepared.kind = .external ∧
        prepared.signedBoc = boc ∧ Stored log call generation config prepared mutation
  | .cancel _ => ∀ rounds, call = .shutdown rounds →
      ∃ before after, Held log before after ∧ after.shutdown = true
  | _ => True

end Calls

/-- The discipline of the operation behind a public call. -/
def walletRule (P : Platform) (call : PublicCall) : Discipline State (walletHost P) where
  call := fun log => CallMove log call
  region := fun log before after => StateMove log call before.tracked after.tracked

end WalletEngine
