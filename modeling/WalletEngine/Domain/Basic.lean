import Mathlib.Algebra.Group.Nat.Defs
import Mathlib.Data.List.Basic

/-! # Boundary values and errors

The validated value types of the engine, its configuration and the errors its
operations report. Machine integers are natural numbers; an operation that can
leave the range of its source type checks the bound itself. -/

namespace WalletEngine

/-- The values of `u16`, `u32` and `u64` lie below these bounds. -/
def u16Bound : Nat := 2 ^ 16
def u32Bound : Nat := 2 ^ 32
def u64Bound : Nat := 2 ^ 64

/-- The `White_Space` property of Unicode, which `str::trim` consults. -/
def isWhiteSpace (c : Char) : Bool :=
  let code := c.toNat
  (9 ≤ code && code ≤ 13) || code == 32 || code == 0x85 || code == 0xA0 || code == 0x1680 ||
    (0x2000 ≤ code && code ≤ 0x200A) || code == 0x2028 || code == 0x2029 || code == 0x202F ||
    code == 0x205F || code == 0x3000

/-- The general category `Cc` of Unicode. -/
def isControl (c : Char) : Bool :=
  c.toNat < 32 || (127 ≤ c.toNat && c.toNat < 160)

def trim (text : List Char) : List Char :=
  ((text.dropWhile isWhiteSpace).reverse.dropWhile isWhiteSpace).reverse

/-- A string with at least one character that is not white space. -/
structure NonEmptyString where
  value : String
  nonBlank : (trim value.toList).isEmpty = false
  deriving DecidableEq

def NonEmptyString.tryFrom (value : String) : Option NonEmptyString :=
  if nonBlank : (trim value.toList).isEmpty = false then some ⟨value, nonBlank⟩ else none

/-- A bag of cells. Construction validates its envelope and parses its cells. -/
structure Boc where
  bytes : List UInt8
  deriving DecidableEq

/-- A 256-bit hash in canonical Base64, so equality of texts is equality of hashes. -/
structure Base64Hash where
  text : String
  deriving DecidableEq

/-- An internal address. Equality in the source ignores the spelling that a
`TonAddressString` retains, so the model keeps the parsed address only. -/
structure TonAddressString where
  workchain : Int
  hash : BitVec 256
  deriving DecidableEq

/-- The raw spelling `workchain:hex`. -/
def TonAddressString.asStr (address : TonAddressString) : String :=
  let digits := Nat.toDigits 16 address.hash.toNat
  toString address.workchain ++ ":" ++
    String.ofList (List.replicate (64 - digits.length) '0' ++ digits)

/-- Arbitrary-precision integers travel as decimal strings and are stored parsed. -/
abbrev UnsignedDecimalString := Nat

namespace UnsignedDecimalString

def isAsciiDigit (c : Char) : Bool :=
  '0' ≤ c && c ≤ '9'

def isCanonicalUnsignedDecimal : List Char → Bool
  | [] => false
  | ['0'] => true
  | first :: rest => isAsciiDigit first && first != '0' && rest.all isAsciiDigit

/-- The value of a list of decimal digits. -/
def ofDigits (digits : List Char) : Nat :=
  digits.foldl (fun value digit => 10 * value + (digit.toNat - '0'.toNat)) 0

def tryFrom (value : String) : Option UnsignedDecimalString :=
  if isCanonicalUnsignedDecimal value.toList then some (ofDigits value.toList) else none

end UnsignedDecimalString

def boundedDiagnostic (message : String) : String :=
  String.ofList <| trim <|
    (message.toList.map fun c => if isControl c then ' ' else c).take 512

inductive AccountStatus where
  | nonexistent | uninitialized | active | frozen | unknown
  deriving DecidableEq

def AccountStatus.debug : AccountStatus → String
  | .nonexistent => "Nonexistent"
  | .uninitialized => "Uninitialized"
  | .active => "Active"
  | .frozen => "Frozen"
  | .unknown => "Unknown"

structure AccountSnapshot where
  balanceNanograms : UnsignedDecimalString
  status : AccountStatus
  syncUtime : Nat
  deriving DecidableEq

inductive Network where
  | mainnet | testnet
  deriving DecidableEq

structure ProtectedSecretRef where
  value : String
  deriving DecidableEq

inductive SecretAccessReason where
  | createWallet | signTransfer | signTonConnectProof | prepareKeyRotation | encryptComment
  | decryptComment | revealRecoveryPhrase | deriveTonConnectSessionKey | signTonConnectData
  deriving DecidableEq

structure ProtectedSecretRead where
  secretRef : ProtectedSecretRef
  reason : SecretAccessReason
  prompt : String
  deriving DecidableEq

structure ProviderConfig where
  toncenterBaseUrl : String
  dnsRootAddress : Option TonAddressString
  requestTimeoutMs : Nat
  deriving DecidableEq

structure WalletClientConfig where
  recordId : NonEmptyString
  address : TonAddressString
  publicKey : List UInt8
  localSecretRef : Option ProtectedSecretRef
  network : Network
  sendValiditySeconds : Nat
  resolutionMarginSeconds : Nat
  providers : ProviderConfig
  deriving DecidableEq

section Errors

inductive HttpHostErrorKind where
  | offline | timeout | connectionLost | dns | tls | policyViolation | responseTooLarge
  | cancelled | other
  deriving DecidableEq

inductive ErrorCategory where
  | transport | providerProtocol | rateLimit | cancellation | hostPolicy
  deriving DecidableEq

inductive ErrorCode where
  | invalidProviderResponse | httpRejected | rateLimited | transportFailed | hostCancelled
  | responseTooLarge | hostPolicyViolation
  deriving DecidableEq

inductive RetryAdvice where
  | none | safe | afterDelay
  deriving DecidableEq

structure DomainError where
  code : ErrorCode
  category : ErrorCategory
  retry : RetryAdvice
  developerMessage : String
  providerStatus : Option Nat
  retryAfterMs : Option Nat
  hostKind : Option HttpHostErrorKind
  deriving DecidableEq

/-- An operational failure of a client call. -/
inductive WalletClientError where
  | invalidLocalSecretReference
  | invalidWalletPublicKey
  | walletIdentityMismatch
  | invalidProviderBaseUrl
  | invalidSendRequest
  | nftTransferUnavailable (diagnostic : String)
  | nftTransferEmulationRejected (diagnostic : String)
  | encryptedCommentUnavailable (diagnostic : String)
  | dnsResolutionUnavailable (diagnostic : String)
  | keyRotationUnavailable (diagnostic : String)
  | localSigningUnavailable
  | identifierExhausted
  | stateUnavailable
  | sendAlreadyInProgress
  | sendPreviewAlreadyInProgress
  | previousSubmissionUnresolved
  | walletSeqnoNotAdvanced
  | sendAccountUnavailable (status : AccountStatus)
  | insufficientBalance (availableNanograms requestedNanograms : UnsignedDecimalString)
  | insufficientBalanceForFees (availableNanograms requestedNanograms
      estimatedFeeNanograms : UnsignedDecimalString)
  | invalidProtectedSecret
  | sendPreviewFailed (diagnostic : String)
  | emulationFailed (diagnostic : String)
  | emulationMessageNotAccepted (diagnostic : String)
  | emulationRejected (diagnostic : String) (computeExitCode actionResultCode : Option Int)
  | sendFailed (diagnostic : String)
  | submissionUnknown (diagnostic : String)
  | sendCancellationTooLate
  | shutdown
  | encryptedCommentLookupFailed (diagnostic : String)
  deriving DecidableEq

def WalletClientError.display : WalletClientError → String
  | .invalidLocalSecretReference => "the local signing secret reference is blank"
  | .invalidWalletPublicKey => "the wallet public key cannot derive the wallet state"
  | .walletIdentityMismatch => "the wallet address does not match the public key and network"
  | .invalidProviderBaseUrl => "the provider base URL cannot be used to build a request"
  | .invalidSendRequest => "invalid send request"
  | .nftTransferUnavailable diagnostic => "NFT transfer is unavailable: " ++ diagnostic
  | .nftTransferEmulationRejected diagnostic =>
    "NFT transfer emulation was rejected: " ++ diagnostic
  | .encryptedCommentUnavailable diagnostic => "encrypted comment is unavailable: " ++ diagnostic
  | .dnsResolutionUnavailable diagnostic => "TON DNS resolution is unavailable: " ++ diagnostic
  | .keyRotationUnavailable diagnostic => "wallet key rotation is unavailable: " ++ diagnostic
  | .localSigningUnavailable => "the wallet is not configured for local signing"
  | .identifierExhausted => "wallet client identifier space is exhausted"
  | .stateUnavailable => "wallet client state is unavailable"
  | .sendAlreadyInProgress => "another send operation is already in progress"
  | .sendPreviewAlreadyInProgress => "another send preview is already in progress"
  | .previousSubmissionUnresolved => "the previous submission outcome is unresolved"
  | .walletSeqnoNotAdvanced =>
    "the wallet sequence number has not advanced since the previous submission"
  | .sendAccountUnavailable status =>
    "wallet account state " ++ status.debug ++ " does not permit sending"
  | .insufficientBalance available requested =>
    "insufficient wallet balance: requested " ++ toString requested ++ " nanograms, available " ++
      toString available
  | .insufficientBalanceForFees available requested fee =>
    "insufficient wallet balance including fees: requested " ++ toString requested ++
      " nanograms, estimated fee " ++ toString fee ++ " nanograms, available " ++
      toString available ++ " nanograms"
  | .invalidProtectedSecret => "the protected wallet secret is invalid"
  | .sendPreviewFailed diagnostic => "send preview failed: " ++ diagnostic
  | .emulationFailed diagnostic => "transfer emulation failed: " ++ diagnostic
  | .emulationMessageNotAccepted diagnostic =>
    "emulation message was not accepted: " ++ diagnostic
  | .emulationRejected diagnostic _ _ =>
    "transfer emulation rejected the message: " ++ diagnostic
  | .sendFailed diagnostic => "send failed: " ++ diagnostic
  | .submissionUnknown diagnostic => "submission outcome is unknown: " ++ diagnostic
  | .sendCancellationTooLate =>
    "the send has crossed its durable commit boundary and can no longer be cancelled"
  | .shutdown => "wallet client is shut down"
  | .encryptedCommentLookupFailed diagnostic =>
    "encrypted-comment recipient lookup failed: " ++ diagnostic

inductive JournalHostErrorKind where
  | unavailable | corruptData | cancelled | other
  deriving DecidableEq

def JournalHostErrorKind.debug : JournalHostErrorKind → String
  | .unavailable => "Unavailable"
  | .corruptData => "CorruptData"
  | .cancelled => "Cancelled"
  | .other => "Other"

structure JournalHostError where
  kind : JournalHostErrorKind
  diagnostic : String
  deriving DecidableEq

def JournalHostError.display (error : JournalHostError) : String :=
  "journal host failure (" ++ error.kind.debug ++ "): " ++ error.diagnostic

inductive ProtectedSecretHostErrorKind where
  | notFound | authenticationFailed | cancelled | unavailable | policyViolation | other
  deriving DecidableEq

def ProtectedSecretHostErrorKind.debug : ProtectedSecretHostErrorKind → String
  | .notFound => "NotFound"
  | .authenticationFailed => "AuthenticationFailed"
  | .cancelled => "Cancelled"
  | .unavailable => "Unavailable"
  | .policyViolation => "PolicyViolation"
  | .other => "Other"

structure ProtectedSecretHostError where
  kind : ProtectedSecretHostErrorKind
  diagnostic : String
  deriving DecidableEq

def ProtectedSecretHostError.display (error : ProtectedSecretHostError) : String :=
  "protected-secret host failure (" ++ error.kind.debug ++ "): " ++ error.diagnostic

end Errors

section Resources

inductive ResourcePhase where
  | idle | loading | ready | failed
  deriving DecidableEq

structure ResourceState where
  phase : ResourcePhase
  error : Option DomainError
  deriving DecidableEq

def ResourceState.idle : ResourceState := ⟨.idle, none⟩
def ResourceState.loading : ResourceState := ⟨.loading, none⟩
def ResourceState.ready : ResourceState := ⟨.ready, none⟩
def ResourceState.failed (error : DomainError) : ResourceState := ⟨.failed, some error⟩

end Resources

section Journal

structure JournalKey where
  recordId : String
  slot : String
  deriving DecidableEq

variable (Payload : Type)

/-- One versioned journal value. The payload is opaque to the host. -/
structure JournalRecord where
  version : Nat
  payload : Payload
  deriving DecidableEq

structure JournalCompareExchange where
  key : JournalKey
  expectedVersion : Option Nat
  replacement : JournalRecord Payload
  deriving DecidableEq

structure JournalCompareExchangeResult where
  applied : Bool
  current : Option (JournalRecord Payload)
  deriving DecidableEq

end Journal

end WalletEngine
