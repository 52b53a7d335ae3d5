import WalletEngine.Safety.ResolveAlone
import WalletEngine.Safety.ResolutionEvidence

/-! # Recovery is idempotent

A recovery that returns a terminal phase has stored it. The next one reads it back from the
record, and shows the same snapshot unless the message carried a diagnostic: the first snapshot
keeps the diagnostic of the unresolved record, and the stored terminal record drops it. -/

namespace WalletEngine

variable {P : Platform}

section Repetition

/-- Another recovery returns the same snapshot, writes nothing and shows nothing new, and so
does the first recovery of a client that is started over the same journal. -/
structure Repeats (second restarted : Attendant P) (snapshot : SendSnapshot) (state : State)
    (desk : Desk P) : Prop where
  again : ∃ after, (Engine.resolvePending : Engine P SendSnapshot).solo second (state, desk) =
    (.ok snapshot, after, desk) ∧ after.snapshot.revision = state.snapshot.revision
  afresh : ∃ after, (Engine.resolvePending : Engine P SendSnapshot).solo restarted
    (.initial state.config, desk) = (.ok snapshot, after, desk)

/-- The newest record of the wallet is terminal already, or carries no diagnostic. -/
def Undiagnosed (desk : Desk P) (config : WalletClientConfig) : Prop :=
  ∃ record durable, desk.newest config = some record ∧
    decodeDurableRecord P.codec record = .ok durable ∧
    (durable.stage.permitsReplacement = true ∨ durable.diagnostic = none)

end Repetition

/-- The snapshot of a stored record. -/
def DurableSendRecord.snapshot (durable : DurableSendRecord) : SendSnapshot where
  operationId := some durable.operationId
  phase := durable.stage.publicPhase
  errorMessage := durable.diagnostic
  resolution := durable.resolutionInfo

section Decisions

variable {margin providerTime : Nat} {durable : DurableSendRecord} {answers : ResolutionAnswers P}

/-- Confirmation evidence fits the record that stores it. -/
theorem decideMessage_lt {hash : Base64Hash} {lt : UnsignedDecimalString}
    (decided : decideMessage margin providerTime durable answers = some (.confirmed hash lt)) :
    lt < u64Bound := by
  have shown : ∀ {lookup} {executed : ExecutedMessage},
      (answers lookup).bind (parseExecutedMessage P.serde P.hashFrom) = .ok (some executed) →
      executed.transactionLt < u64Bound := by
    intro lookup executed parsed
    obtain ⟨body, -, parsed⟩ := except_bind_eq_ok.mp parsed
    exact parseExecutedMessage_lt _ _ parsed
  unfold decideMessage at decided
  split at decided
  · unfold decideExternal at decided
    split at decided
    · cases decided
    · rename_i found
      cases decided
      exact shown found
    · split at decided
      split at decided
      · cases decided
      · split at decided
        · cases decided
        · split at decided
          · split at decided
            · cases decided
            · rename_i found
              cases decided
              exact shown found
            · cases decided
          · split at decided <;> cases decided
  · unfold decideInternal at decided
    split at decided
    · cases decided
    · split at decided
      · cases decided
      · split at decided <;> cases decided

end Decisions

section Outcomes

variable {attendant : Attendant P} {state after : State} {desk left : Desk P}
  {snapshot : SendSnapshot}
variable {durable : DurableSendRecord}

/-- How a recovery that returns a terminal phase came to it. -/
inductive Recovered (state : State) (desk : Desk P) : SendSnapshot → State → Desk P → Prop
  /-- There is no record, and the snapshot on show is returned. -/
  | unchanged (absent : desk.newest state.config = none) :
      Recovered state desk state.snapshot.send state.resolved desk
  /-- The record is terminal. -/
  | stored (record : JournalRecord P.codec.Payload) (durable : DurableSendRecord)
      (newest : desk.newest state.config = some record)
      (owned : decodeOwnedRecord P.codec record state.config.recordId state.config.address =
        .ok durable) (settled : durable.stage.permitsReplacement = true) :
      Recovered state desk durable.snapshot (state.resolved.showing durable.snapshot) desk
  /-- The record was pending, and its resolution is stored now. -/
  | settled (pending : PendingSendRecord P.codec) (resolution : SendResolution)
      (durable : DurableSendRecord) (mutation : JournalCompareExchange P.codec.Payload)
      (newest : desk.newest state.config = some pending.journal)
      (owned : decodeOwnedRecord P.codec pending.journal state.config.recordId
        state.config.address = .ok pending.durable)
      (blocks : pending.durable.stage.permitsReplacement = false)
      (resolved : pending.resolved resolution = some durable)
      (stores : mutation.Stores (some pending.journalVersion) durable) :
      Recovered state desk (pending.snapshot resolution)
        (state.resolved.showing (pending.snapshot resolution)) (desk.store mutation)

theorem sendSnapshotFromJournal_eq {record : JournalRecord P.codec.Payload}
    {recordId : NonEmptyString} {source : TonAddressString}
    (owned : decodeOwnedRecord P.codec record recordId source = .ok durable) :
    sendSnapshotFromJournal P.codec record recordId source = .ok durable.snapshot := by
  rw [sendSnapshotFromJournal, owned]
  rfl

/-- A record that is owned and terminal does not block. -/
theorem pendingSendRecord_of_settled {record : JournalRecord P.codec.Payload}
    {recordId : NonEmptyString} {source : TonAddressString}
    (owned : decodeOwnedRecord P.codec record recordId source = .ok durable)
    (settled : durable.stage.permitsReplacement = true) :
    pendingSendRecord P.codec record recordId source = .ok none := by
  rw [pendingSendRecord, owned]
  change (if durable.stage.permitsReplacement = true then pure none else pure _) = _
  rw [if_pos settled]
  rfl

theorem stillPending_of_unwritten {pending : PendingSendRecord P.codec}
    {resolution : SendResolution} (unwritten : pending.terminalMutation resolution = .ok none) :
    ∃ reason, resolution = .stillPending reason := by
  rw [PendingSendRecord.terminalMutation] at unwritten
  cases resolved : pending.resolved resolution with
  | none => cases resolution <;> cases resolved; exact ⟨_, rfl⟩
  | some durable =>
    rw [resolved] at unwritten
    obtain ⟨version, -, unwritten⟩ := except_bind_eq_ok.mp unwritten
    obtain ⟨payload, -, unwritten⟩ := except_bind_eq_ok.mp unwritten
    cases unwritten

theorem resolutionVerdict_lt {config : WalletClientConfig} {account : HttpRequest}
    {requests : ResolutionRequests} {hash : Base64Hash} {lt : UnsignedDecimalString}
    (concluded : resolutionVerdict attendant config durable account requests =
      some (.confirmed hash lt)) : lt < u64Bound := by
  unfold resolutionVerdict at concluded
  split at concluded
  · cases concluded
  · exact decideMessage_lt concluded

theorem recovered_of_ok
    (ran : (Engine.resolvePending : Engine P SendSnapshot).solo attendant (state, desk) =
      (.ok snapshot, after, left))
    (terminal : snapshot.phase.isResolved = true) : Recovered state desk snapshot after left := by
  have ready := ready_of_resolvePending ran
  cases newest : desk.newest state.config with
  | none =>
    rw [resolvePending_solo_empty ready newest] at ran
    cases ran
    exact .unchanged newest
  | some record =>
    rcases blocked : pendingSendRecord P.codec record state.config.recordId
      state.config.address with error | (_ | pending)
    · obtain ⟨failure, failed⟩ := resolvePending_solo_invalid ready newest blocked
      cases failed.symm.trans ran
    · obtain ⟨durable, owned, unblocked⟩ := except_bind_eq_ok.mp blocked
      have settled : durable.stage.permitsReplacement = true := by
        by_contra blocks
        rw [if_neg blocks] at unblocked
        cases unblocked
      obtain ⟨-, rfl, rfl, rfl⟩ := (resolvePending_solo_stored ready newest blocked
        (sendSnapshotFromJournal_eq owned)).of_ok ran
      exact .stored record durable newest owned settled
    · obtain ⟨rfl, owned, blocks⟩ := pendingSendRecord_ok blocked
      obtain ⟨account, requests, -, -, concludes⟩ := resolvePending_solo_pending ready newest blocked
      rcases concluded : resolutionVerdict attendant state.config pending.durable account
        requests with _ | resolution
      · obtain ⟨failure, failed⟩ := concludes.failed concluded
        cases failed.symm.trans ran
      · rcases written : pending.terminalMutation resolution with error | (_ | mutation)
        · obtain ⟨failure, failed⟩ := concludes.unrecorded resolution error concluded written
          cases failed.symm.trans ran
        · obtain ⟨reason, rfl⟩ := stillPending_of_unwritten written
          obtain ⟨-, rfl, -, -⟩ := (concludes.waits reason concluded).of_ok ran
          rw [PendingSendRecord.snapshot_unresolved blocks] at terminal
          cases terminal
        · obtain ⟨durable, resolved, stores⟩ := PendingSendRecord.terminalMutation_ok
            (decodeDurableRecord_ok (decodeOwnedRecord_ok owned).1).2.2
            (fun _ _ confirmed => resolutionVerdict_lt (confirmed ▸ concluded)) written
          obtain ⟨-, rfl, rfl, rfl⟩ :=
            (concludes.recorded resolution mutation concluded written).of_ok ran
          exact .settled pending resolution durable mutation newest owned blocks resolved stores

end Outcomes

section Repetitions

variable {first second restarted : Attendant P} {state after : State} {desk left : Desk P}
  {snapshot : SendSnapshot}
variable {durable : DurableSendRecord}

theorem showing_send (state : State) (snapshot : SendSnapshot) :
    (state.showing snapshot).snapshot.send = snapshot := by
  unfold State.showing
  split
  · assumption
  · rfl

theorem showing_config (state : State) (snapshot : SendSnapshot) :
    (state.resolved.showing snapshot).config = state.config := by
  unfold State.showing
  split <;> rfl

theorem showing_same {state : State} (same : state.snapshot.send = snapshot) :
    state.showing snapshot = state := by
  rw [State.showing, if_pos same]

/-- A client that has completed a resolution can start the next one. -/
theorem ready_showing (ready : state.Ready)
    (generation : (state.resolved.showing snapshot).resolutionGeneration + 1 < u64Bound)
    (identifiers : (state.resolved.showing snapshot).nextId + 5 < u64Bound) :
    (state.resolved.showing snapshot).Ready := by
  refine ⟨?_, ?_, generation, identifiers, ?_⟩
  all_goals
    unfold State.showing
    split
  · exact ready.running
  · exact ready.running
  · exact ⟨ready.idle.1, rfl⟩
  · exact ⟨ready.idle.1, rfl⟩
  · exact ready.addressable
  · exact ready.addressable

theorem ready_initial (ready : state.Ready) : (State.initial state.config).Ready where
  running := ⟨rfl, rfl⟩
  idle := ⟨rfl, rfl⟩
  generation := show 1 < u64Bound by decide
  identifiers := show 6 < u64Bound by decide
  addressable := ready.addressable

/-- A recovery that finds a terminal record shows it, on whatever client. -/
theorem completes_of_stored {record : JournalRecord P.codec.Payload} (ready : state.Ready)
    (newest : desk.newest state.config = some record)
    (owned : decodeOwnedRecord P.codec record state.config.recordId state.config.address =
      .ok durable) (settled : durable.stage.permitsReplacement = true) :
    Completes state durable.snapshot desk
      ((Engine.resolvePending : Engine P SendSnapshot).solo first (state, desk)) :=
  resolvePending_solo_stored ready newest (pendingSendRecord_of_settled owned settled)
    (sendSnapshotFromJournal_eq owned)

theorem repeats_of_stored {record : JournalRecord P.codec.Payload} (ready : state.Ready)
    (newest : desk.newest state.config = some record)
    (owned : decodeOwnedRecord P.codec record state.config.recordId state.config.address =
      .ok durable) (settled : durable.stage.permitsReplacement = true)
    (shown : state.snapshot.send = durable.snapshot) :
    Repeats second restarted durable.snapshot state desk where
  again := by
    refine ⟨_, (completes_of_stored ready newest owned settled).eq_ok (.inl shown), ?_⟩
    rw [show state.resolved.showing durable.snapshot = state.resolved from showing_same shown]
    rfl
  afresh := ⟨_, (completes_of_stored (ready_initial ready) newest owned settled).eq_ok
    (.inr (show 1 < u64Bound by decide))⟩

/-- The snapshot of a resolution that was stored, read back, loses the diagnostic. -/
theorem snapshot_resolved {pending : PendingSendRecord P.codec} {resolution : SendResolution}
    (resolved : pending.resolved resolution = some durable) :
    durable.snapshot = { pending.snapshot resolution with errorMessage := none } := by
  cases resolution <;> cases resolved <;> rfl

theorem newest_store {config : WalletClientConfig}
    {mutation : JournalCompareExchange P.codec.Payload} (key : mutation.key = sendKey config) :
    (desk.store mutation).newest config = some mutation.replacement := by
  simp [Desk.newest, Desk.store, key]

/-- The record of a resolution takes the place of the pending one, for the same owner. -/
theorem replaces_of_stores {config : WalletClientConfig} {pending : PendingSendRecord P.codec}
    {resolution : SendResolution} {version : Option Nat}
    {mutation : JournalCompareExchange P.codec.Payload}
    (owned : decodeOwnedRecord P.codec pending.journal config.recordId config.address =
      .ok pending.durable) (resolved : pending.resolved resolution = some durable)
    (stores : mutation.Stores version durable) :
    mutation.key = sendKey config ∧
    decodeOwnedRecord P.codec mutation.replacement config.recordId config.address =
      .ok durable := by
  obtain ⟨-, sameId, sameSource⟩ := decodeOwnedRecord_ok owned
  have same := (PendingSendRecord.resolved_eq resolved).2
  constructor
  · rw [stores.key, same, sendKey, ← sameId]
  · rw [← sameId, ← sameSource]
    have owner := decodeOwnedRecord_of_decoded stores.decoded
    rw [same] at owner ⊢
    exact owner

end Repetitions

/-- A recovery that returned a terminal phase repeats itself exactly when the record it found
was terminal already or carried no diagnostic. -/
theorem resolvePending_repeats_iff {first second restarted : Attendant P} {state after : State}
    {desk left : Desk P} {snapshot : SendSnapshot}
    (ran : (Engine.resolvePending : Engine P SendSnapshot).solo first (state, desk) =
      (.ok snapshot, after, left))
    (terminal : snapshot.phase.isResolved = true)
    (generation : after.resolutionGeneration + 1 < u64Bound)
    (identifiers : after.nextId + 5 < u64Bound) :
    Repeats second restarted snapshot after left ↔ Undiagnosed desk state.config := by
  have ready := ready_of_resolvePending ran
  cases recovered_of_ok ran terminal with
  | unchanged absent =>
    constructor
    · rintro ⟨-, _, afresh⟩
      have idle := @resolvePending_solo_empty P restarted (.initial state.config) desk
        (ready_initial ready) absent
      rw [show state.resolved.config = state.config from rfl, idle] at afresh
      rw [← Except.ok.inj (Prod.mk.inj afresh).1] at terminal
      cases terminal
    · rintro ⟨_, _, newest, -⟩
      rw [absent] at newest
      cases newest
  | stored record durable newest owned settled =>
    have config := showing_config state durable.snapshot
    refine iff_of_true ?_ ⟨record, durable, newest, (decodeOwnedRecord_ok owned).1, .inl settled⟩
    exact repeats_of_stored (ready_showing ready generation identifiers) (config ▸ newest)
      (config ▸ owned) settled (showing_send _ _)
  | settled pending resolution durable mutation newest owned blocks resolved stores =>
    have decoded := (decodeOwnedRecord_ok owned).1
    have shows := (PendingSendRecord.resolved_eq resolved).1
    have config := showing_config state (pending.snapshot resolution)
    have again := ready_showing ready generation identifiers
    obtain ⟨key, replaced⟩ := replaces_of_stores owned resolved stores
    have newer : (desk.store mutation).newest state.config = some mutation.replacement :=
      newest_store key
    constructor
    · rintro ⟨⟨_, repeated, -⟩, -⟩
      have completes := @completes_of_stored P second _ (desk.store mutation) _ _ again
        (config ▸ newer) (config ▸ replaced) shows.permitsReplacement
      have equal : pending.snapshot resolution = durable.snapshot := (completes.of_ok repeated).2.1
      rw [snapshot_resolved resolved] at equal
      have undiagnosed : pending.durable.diagnostic = none :=
        congrArg SendSnapshot.errorMessage equal
      exact ⟨pending.journal, pending.durable, newest, decoded, .inr undiagnosed⟩
    · rintro ⟨record, found, newest', decoded', terminal | undiagnosed⟩
      · obtain rfl := Option.some.inj (newest.symm.trans newest')
        obtain rfl := Except.ok.inj (decoded.symm.trans decoded')
        rw [blocks] at terminal
        cases terminal
      · obtain rfl := Option.some.inj (newest.symm.trans newest')
        obtain rfl := Except.ok.inj (decoded.symm.trans decoded')
        have equal : pending.snapshot resolution = durable.snapshot := by
          rw [snapshot_resolved resolved, ← undiagnosed]
          rfl
        rw [equal] at again config ⊢
        exact repeats_of_stored again (config ▸ newer) (config ▸ replaced)
          shows.permitsReplacement (showing_send _ _)

section Samples

/-- A provider that knows the message. -/
def confirmingAttendant : Attendant plainPlatform where
  provider request := .ok (match request.endpoint with
    | .getAddressInformation _ => accountBody "active" 100
    | _ => transactionBody "hash")
  secret := .ok ()
  woken := true

/-- A journal with one record of a message that was submitted. -/
def submittedDesk (diagnostic : Option String) : Desk plainPlatform where
  slots := fun _ => [⟨1, { unresolvedRecord 3 with stage := .submissionUnknown, diagnostic }⟩]
  writes := []

/-- The recovery of the record by a new client. -/
def confirmedEnding (diagnostic : Option String) : Ending plainPlatform SendSnapshot :=
  (Engine.resolvePending : Engine plainPlatform SendSnapshot).solo confirmingAttendant
    (.initial plainConfig, submittedDesk diagnostic)

/-- What the recovery reports. -/
def confirmedSnapshot (diagnostic : Option String) : SendSnapshot :=
  ⟨some ⟨"operation", @rfl Bool false⟩, .confirmed, diagnostic,
    some ⟨some ⟨"hash"⟩, some 7, none, false, none⟩⟩

theorem confirmedEnding_eq (diagnostic : Option String) :
    confirmedEnding diagnostic = (.ok (confirmedSnapshot diagnostic),
      (confirmedEnding diagnostic).2.1, (confirmedEnding diagnostic).2.2) := rfl

/-- Without a diagnostic the recovery repeats itself. -/
theorem resolvePending_repeats_confirmed :
    Repeats confirmingAttendant confirmingAttendant (confirmedSnapshot none)
      (confirmedEnding none).2.1 (confirmedEnding none).2.2 :=
  (resolvePending_repeats_iff (confirmedEnding_eq none) rfl (by decide) (by decide)).mpr
    ⟨_, _, rfl, rfl, .inr rfl⟩

/-- With one it does not: the second recovery reports the message without it. -/
theorem resolvePending_forgets_diagnostic :
    confirmedEnding (some "timeout") = (.ok (confirmedSnapshot (some "timeout")),
      (confirmedEnding (some "timeout")).2.1, (confirmedEnding (some "timeout")).2.2) ∧
    (confirmedSnapshot (some "timeout")).phase.isResolved = true ∧
    ¬ Repeats confirmingAttendant confirmingAttendant (confirmedSnapshot (some "timeout"))
      (confirmedEnding (some "timeout")).2.1 (confirmedEnding (some "timeout")).2.2 := by
  refine ⟨confirmedEnding_eq _, rfl, ?_⟩
  rintro ⟨⟨after, again, -⟩, -⟩
  have second : ((Engine.resolvePending : Engine plainPlatform SendSnapshot).solo
      confirmingAttendant ((confirmedEnding (some "timeout")).2.1,
        (confirmedEnding (some "timeout")).2.2)).1 = .ok (confirmedSnapshot none) := rfl
  rw [again] at second
  cases second

end Samples

end WalletEngine
