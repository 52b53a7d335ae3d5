import WalletEngine.Host.Journal

/-! # A host in memory

A platform whose parts are as plain as possible, and a host that keeps the
journal in memory and answers a request with a body chosen by the scheduler. It
shows that the assumptions of the safety results can be met. -/

namespace WalletEngine

/-- What the scheduler decides about a host call. -/
inductive MemoryChoice (Body : Type) where
  | body (value : Body)
  /-- The call does its work, and its answer is lost. -/
  | lost
  /-- The call fails without effect. -/
  | fails

variable {P : Platform}

section Exchange

variable (slots : JournalSlots P) (error : JournalHostError)
  (mutation : JournalCompareExchange P.codec.Payload)

/-- A compare-exchange on slots kept in memory. -/
def memoryExchange (choice : MemoryChoice P.serde.Body) :
    HostCall.Answer P (.compareExchangeJournal mutation) × JournalSlots P :=
  let stored := Function.update slots mutation.key (mutation.replacement :: slots mutation.key)
  match choice with
  | .fails => (.error error, slots)
  | .lost =>
    if (slots mutation.key).head?.map (·.version) = mutation.expectedVersion then
      (.error error, stored)
    else (.error error, slots)
  | .body _ =>
    if (slots mutation.key).head?.map (·.version) = mutation.expectedVersion then
      (.ok ⟨true, some mutation.replacement⟩, stored)
    else (.ok ⟨false, (slots mutation.key).head?⟩, slots)

theorem memoryExchange_exchanged (choice : MemoryChoice P.serde.Body) :
    Exchanged slots mutation (memoryExchange slots error mutation choice).1
      (memoryExchange slots error mutation choice).2 := by
  cases choice with
  | fails => exact .failed error
  | lost =>
    simp only [memoryExchange]
    split
    · exact .lost error ‹_›
    · exact .failed error
  | body value =>
    simp only [memoryExchange]
    split
    · exact .applied _ rfl ‹_›
    · exact .refused _ rfl rfl

end Exchange

section Host

/-- The failure of a call whose answer does not arrive. -/
def journalUnavailable : JournalHostError := ⟨.unavailable, ""⟩

def memoryRespond (secret : P.crypto.Secret) (slots : JournalSlots P) :
    (call : HostCall P) → MemoryChoice P.serde.Body →
      Option (HostCall.Answer P call × JournalSlots P)
  | .loadJournal key, .body _ => some (.ok (slots key).head?, slots)
  | .loadJournal _, _ => some (.error journalUnavailable, slots)
  | .compareExchangeJournal mutation, choice =>
    some (memoryExchange slots journalUnavailable mutation choice)
  | .readProtectedSecret _, _ => some (.ok secret, slots)
  | .execute _, .body value => some (.ok value, slots)
  | .execute _, _ => some (.error (hostError .connectionLost ""), slots)
  | .cancel _, _ => some ((), slots)
  | .notified, _ => some (true, slots)

/-- The journal in memory and a provider that says anything. -/
def memoryHost (secret : P.crypto.Secret) : JournalHost P where
  World := JournalSlots P
  Choice := MemoryChoice P.serde.Body
  respond := memoryRespond secret
  drift := fun _ _ => none
  slots := id
  loads {slots key choice answer after} responded := by
    cases choice with
    | body value =>
      cases responded
      exact ⟨rfl, fun _ told => (Except.ok.inj told).symm⟩
    | lost => cases responded; exact ⟨rfl, nofun⟩
    | fails => cases responded; exact ⟨rfl, nofun⟩
  exchanges {slots mutation choice answer after} responded := by
    have exchanged := memoryExchange_exchanged slots journalUnavailable mutation choice
    rw [Option.some.inj responded] at exchanged
    exact exchanged
  spares {slots call choice answer after} other responded := by
    cases call with
    | loadJournal key => cases other
    | compareExchangeJournal mutation => cases other
    | readProtectedSecret read => cases choice <;> cases responded <;> rfl
    | execute request => cases choice <;> cases responded <;> rfl
    | cancel id => cases choice <;> cases responded <;> rfl
    | notified => cases choice <;> cases responded <;> rfl
  drifts drifted := by cases drifted

end Host

section Plain

/-- Bodies are JSON values, payloads are the records themselves, and the hash of
a message spells out what was signed. -/
def plainPlatform : Platform where
  serde := { Body := Json, fromSlice := .ok, render := fun _ => "" }
  codec := {
    Payload := DurableSendRecord
    toVec := .ok
    fromSlice := .ok
    roundTrip := fun encoded => by cases encoded; rfl }
  crypto := {
    Secret := Unit
    Wallet := Unit
    Cells := List SendMessage
    deriveWallet := fun _ _ => .ok ()
    address := fun _ => ⟨0, 1⟩
    isPreRotation := fun _ => true
    buildInternalMessages := .ok
    createSigned := fun _ kind _ seqno validUntil _ =>
      .ok (⟨[UInt8.ofNat seqno, UInt8.ofNat validUntil]⟩,
        ⟨(if kind = .external then "e" else "i") ++ toString seqno ++ ":" ++ toString validUntil⟩)
    parseMessage := fun _ => .ok .other }
  keys := {
    SigningKey := PublicKey
    verifyingKey := id
    createUnsigned := fun _ _ _ _ _ _ _ => .error "not available"
    nftTransferBody := fun _ _ _ => .error "not available"
    prepareRotation := fun _ _ _ _ _ _ _ => .error .preparation
    validateEncryptedCommentBody := fun _ => .error .invalidBody
    verifyRecipientPublicKey := fun _ _ _ => .error .invalidPeerPublicKey
    encryptComment := fun _ _ _ _ _ => .error .cellEncoding
    commentKeys := fun _ _ _ => .error .invalidMnemonic
    decryptCommentWithKeys := fun _ _ _ => .error .invalidBody
    recoverSigningKeys := fun _ current _ => [current] }
  hashFrom := fun text => some ⟨text⟩
  views := {
    parseActivity := fun _ => .error (invalidResponse "")
    parseNftPage := fun _ _ => .error (invalidResponse "")
    parseSingleNftItem := fun _ _ _ => .error (invalidResponse "")
    parseEmulation := fun _ _ => .error (invalidResponse "")
    parseDnsWalletAddress := fun _ _ => .error (invalidResponse "")
    parsePublicKey := fun _ => .error (invalidResponse "")
    parseKeyChangePage := fun _ _ => .error (invalidResponse "") }

/-- The wallet of the schedules. -/
def plainConfig : WalletClientConfig where
  recordId := ⟨"wallet", by decide⟩
  address := ⟨0, 1⟩
  publicKey := []
  localSecretRef := some ⟨"secret"⟩
  network := .testnet
  sendValiditySeconds := 10
  resolutionMarginSeconds := 5
  providers := ⟨"http://provider", none, 1⟩

/-- A transfer of one nanogram. -/
def plainIntent : SendIntent := ⟨.engineDefault, [⟨⟨0, 2⟩, .exact 1, .empty, false, none⟩]⟩

/-- A number of a body; one that no reader can hold is left out. -/
def numberBody (value : Nat) : Json :=
  if machine : value < 2 ^ 64 then .num (.posInt value machine) else .null

def accountBody (state : String) (syncUtime : Nat) : Json :=
  .obj [("ok", .bool true), ("result", .obj [("balance", numberBody 5),
    ("state", .str state), ("sync_utime", numberBody syncUtime)])]

def acceptedBody : Json := .obj [("ok", .bool true), ("result", .obj [("@type", .str "ok")])]

def rejectedBody : Json :=
  .obj [("ok", .bool false), ("error", .str "rejected"), ("code", numberBody 400)]

def transactionBody (hash : String) : Json :=
  .obj [("transactions", .arr [.obj [("hash", .str hash), ("lt", .str "7")]])]

def noTransactionsBody : Json := .obj [("transactions", .arr [])]

def walletBody (seqno : Nat) : Json :=
  .obj [("wallets", .arr [.obj [("seqno", numberBody seqno)]])]

abbrev plainHost : JournalHost plainPlatform := memoryHost (P := plainPlatform) ()

/-- No client is launched and the journal is empty. -/
def plainStart : plainHost.system.Config := System.initial fun _ => []

/-- The stages of the wallet's records, newest first. -/
def plainStages (config : plainHost.system.Config) : List SendStage :=
  (plainHost.journal config.toView (sendKey plainConfig)).map fun record =>
    DurableSendRecord.stage record.payload

/-- A client that is asked for one operation. -/
def plainInvoke (call : PublicCall) : List plainHost.system.Action :=
  [.launch plainConfig, .invoke 0 call]

/-- The operation takes steps, and the provider answers each request with one body. -/
def plainAdvance (routine steps : Nat) (value : Json) : List plainHost.system.Action :=
  List.replicate steps (.advance routine (.body value))

end Plain

end WalletEngine
