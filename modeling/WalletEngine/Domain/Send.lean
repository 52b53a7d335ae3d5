import WalletEngine.Domain.Basic

/-! # Transfer requests, phases and snapshots -/

namespace WalletEngine

inductive SendAmount where
  | exact (nanograms : UnsignedDecimalString)
  | all
  deriving DecidableEq

inductive SendMessageBody where
  | empty
  | comment (text : String)
  | rawPayload (boc : Boc)
  deriving DecidableEq

structure SendMessage where
  destination : TonAddressString
  amount : SendAmount
  body : SendMessageBody
  bounce : Bool
  stateInit : Option Boc
  deriving DecidableEq

inductive SendExpiration where
  | engineDefault
  | exact (unixTimestamp : Nat)
  deriving DecidableEq

structure SendIntent where
  expiration : SendExpiration
  messages : List SendMessage
  deriving DecidableEq

inductive SendIntentError where
  | invalidMessageCount
  | wholeBalanceInBatch
  deriving DecidableEq

/-- Sum the exact values of a batch, starting from `total`. The loop returns
`none` at the first whole-balance message. -/
def SendIntent.sumExact (total : Nat) : List SendMessage → Option UnsignedDecimalString
  | [] => some total
  | message :: rest =>
    match message.amount with
    | .exact nanograms => sumExact (total + nanograms) rest
    | .all => none

/-- Validate the batch and return the sum of its exact values; `none` stands for
the single whole-balance form. -/
def SendIntent.exactValueTotal (intent : SendIntent) :
    Except SendIntentError (Option UnsignedDecimalString) :=
  if intent.messages.isEmpty || intent.messages.length > 255 then .error .invalidMessageCount
  else if intent.messages.length > 1 && intent.messages.any (·.amount == .all) then
    .error .wholeBalanceInBatch
  else .ok (sumExact 0 intent.messages)

structure SendRequest where
  operationId : NonEmptyString
  force : Bool
  intent : SendIntent
  deriving DecidableEq

structure SendBocRequest where
  operationId : NonEmptyString
  force : Bool
  signedBoc : Boc
  seqno : Nat
  validUntil : Nat
  deriving DecidableEq

structure SignMessageRequest where
  operationId : NonEmptyString
  force : Bool
  intent : SendIntent
  deriving DecidableEq

inductive SendPhase where
  | idle | validating | authorizing | preparing | persisting | readyToSubmit | submitting
  | submissionUnknown | submitted | handedOff | confirmed | replaced | sequenceNumberConsumed
  | expired | superseded | failed | cancelled
  deriving DecidableEq

inductive PendingReason where
  | inMempool | awaitingWindow
  deriving DecidableEq

structure ResolutionInfo where
  transactionHash : Option Base64Hash
  transactionLt : Option UnsignedDecimalString
  pendingReason : Option PendingReason
  canForceRetry : Bool
  retryAfterHintMs : Option Nat
  deriving DecidableEq

/-- The send part of a wallet snapshot. -/
structure SendSnapshot where
  operationId : Option NonEmptyString
  phase : SendPhase
  errorMessage : Option String
  resolution : Option ResolutionInfo
  deriving DecidableEq

def SendSnapshot.empty : SendSnapshot := ⟨none, .idle, none, none⟩

structure SendResult where
  operationId : NonEmptyString
  messageHash : Base64Hash
  signedBoc : Boc
  phase : SendPhase
  deriving DecidableEq

structure SignMessageResult where
  operationId : NonEmptyString
  internalBoc : Boc
  validUntil : Nat
  phase : SendPhase
  deriving DecidableEq

end WalletEngine
