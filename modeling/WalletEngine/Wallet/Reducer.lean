import WalletEngine.Wallet.SendWorkflow

/-! # What the reducer methods do

One lemma for each method: the workflow it leaves when it succeeds, and what its
success shows about its input. -/

namespace WalletEngine

variable {codec : JournalCodec}

/-- The durable record of a prepared transfer. -/
def PreparedTransfer.durable (prepared : PreparedTransfer) (stage : SendStage)
    (providerReference diagnostic : Option String) : DurableSendRecord where
  schemaVersion := journalSchemaVersion
  operationId := prepared.operationId
  recordId := prepared.recordId
  source := prepared.source
  kind := prepared.kind
  messages := prepared.messages
  seqno := prepared.seqno
  needsStateInit := prepared.needsStateInit
  validUntil := prepared.validUntil
  signedBoc := prepared.signedBoc
  messageHash := prepared.messageHash
  stage := stage
  providerReference := providerReference
  diagnostic := diagnostic
  confirmedTransactionHash := none
  confirmedTransactionLt := none

/-- A journal version is positive and follows the one it replaces. -/
theorem nextJournalVersion_ok {current : Option Nat} {version : Nat}
    (ok : nextJournalVersion current = .ok version) :
    0 < version ∧ ∀ previous ∈ current, version = previous + 1 := by
  cases current with
  | none =>
    cases ok
    exact ⟨Nat.one_pos, nofun⟩
  | some previous =>
    simp only [nextJournalVersion] at ok
    split at ok
    · obtain rfl := Except.ok.inj ok
      exact ⟨Nat.succ_pos _, by rintro _ ⟨⟩; rfl⟩
    · cases ok

/-- A compare-exchange that stores `durable` over the version `expected`. -/
structure JournalCompareExchange.Stores (mutation : JournalCompareExchange codec.Payload)
    (expected : Option Nat) (durable : DurableSendRecord) : Prop where
  key : mutation.key = ⟨durable.recordId.value, sendSlot⟩
  expectedVersion : mutation.expectedVersion = expected
  version : nextJournalVersion expected = .ok mutation.replacement.version
  decoded : decodeDurableRecord codec mutation.replacement = .ok durable

section Decoding

variable {durable : DurableSendRecord} {record : JournalRecord codec.Payload}

theorem JournalCodec.encode_ok {payload : codec.Payload} (ok : codec.encode durable = .ok payload) :
    codec.fromSlice payload = .ok durable :=
  codec.roundTrip (except_mapError_eq_ok.mp ok)

/-- A record decodes to `durable` when its version is positive, its payload is the
encoding of `durable`, and `durable` passes the schema and evidence checks. -/
theorem decodeDurableRecord_of_fromSlice (positive : 0 < record.version)
    (decoded : codec.fromSlice record.payload = .ok durable)
    (schema : durable.schemaVersion = journalSchemaVersion)
    (evidence : durable.stage = .confirmed → durable.confirmedTransactionHash.isSome ∧
      durable.confirmedTransactionLt.any (· < u64Bound)) :
    decodeDurableRecord codec record = .ok durable := by
  have versioned : record.version ≠ 0 := Nat.pos_iff_ne_zero.mp positive
  simpa [decodeDurableRecord, versioned, decoded, schema, Except.mapError, bind, Except.bind,
    pure, Except.pure, Option.isSome_iff_ne_none] using evidence

theorem decodeDurableRecord_ok (ok : decodeDurableRecord codec record = .ok durable) :
    0 < record.version ∧ codec.fromSlice record.payload = .ok durable ∧
      durable.schemaVersion = journalSchemaVersion := by
  unfold decodeDurableRecord at ok
  obtain ⟨positive, ok⟩ := except_guard_eq_ok.mp ok
  obtain ⟨found, decoded, ok⟩ := except_bind_eq_ok.mp ok
  obtain ⟨schema, ok⟩ := except_guard_eq_ok.mp ok
  obtain ⟨_, ok⟩ := except_guard_eq_ok.mp ok
  obtain rfl := Except.ok.inj ok
  exact ⟨Nat.pos_of_ne_zero positive, except_mapError_eq_ok.mp decoded, not_not.mp schema⟩

theorem decodeOwnedRecord_ok {recordId : NonEmptyString} {source : TonAddressString}
    (ok : decodeOwnedRecord codec record recordId source = .ok durable) :
    decodeDurableRecord codec record = .ok durable ∧ durable.recordId = recordId ∧
      durable.source = source := by
  unfold decodeOwnedRecord at ok
  obtain ⟨found, decoded, ok⟩ := except_bind_eq_ok.mp ok
  obtain ⟨owned, ok⟩ := except_guard_eq_ok.mp ok
  obtain rfl := Except.ok.inj ok
  obtain ⟨sameId, sameSource⟩ := not_or.mp owned
  exact ⟨decoded, not_not.mp sameId, not_not.mp sameSource⟩

/-- A record belongs to the wallet it names. -/
theorem decodeOwnedRecord_of_decoded (decoded : decodeDurableRecord codec record = .ok durable) :
    decodeOwnedRecord codec record durable.recordId durable.source = .ok durable := by
  rw [decodeOwnedRecord, decoded]
  simp [bind, Except.bind, pure, Except.pure]

theorem pendingSendRecord_ok {recordId : NonEmptyString} {source : TonAddressString}
    {pending : PendingSendRecord codec}
    (ok : pendingSendRecord codec record recordId source = .ok (some pending)) :
    pending.journal = record ∧
      decodeOwnedRecord codec record recordId source = .ok pending.durable ∧
      pending.durable.stage.permitsReplacement = false := by
  unfold pendingSendRecord at ok
  obtain ⟨durable, owned, ok⟩ := except_bind_eq_ok.mp ok
  split at ok
  · cases ok
  · rename_i unsettled
    cases ok
    exact ⟨rfl, owned, Bool.eq_false_iff.mpr unsettled⟩

end Decoding

section Resolution

/-- The record carries the given resolver terminal. -/
def DurableSendRecord.Shows (durable : DurableSendRecord) : SendResolution → Prop
  | .confirmed hash lt => durable.stage = .confirmed ∧
      durable.confirmedTransactionHash = some hash ∧ durable.confirmedTransactionLt = some lt
  | .replaced => durable.stage = .replaced
  | .sequenceNumberConsumed => durable.stage = .sequenceNumberConsumed
  | .expired => durable.stage = .expired
  | .stillPending _ => False

variable {pending : PendingSendRecord codec} {resolution : SendResolution}
  {durable : DurableSendRecord}

/-- A resolution changes the stage and the evidence of a record, nothing that
its signature covers. -/
theorem PendingSendRecord.resolved_eq (resolved : pending.resolved resolution = some durable) :
    durable.Shows resolution ∧ durable = { pending.durable with
      stage := durable.stage, diagnostic := none
      confirmedTransactionHash := durable.confirmedTransactionHash
      confirmedTransactionLt := durable.confirmedTransactionLt } := by
  cases resolution <;> cases resolved <;> simp [DurableSendRecord.Shows]

theorem DurableSendRecord.Shows.permitsReplacement (shows : durable.Shows resolution) :
    durable.stage.permitsReplacement = true := by
  cases resolution <;> simp_all [DurableSendRecord.Shows, SendStage.permitsReplacement]

theorem PendingSendRecord.terminalMutation_ok {mutation : JournalCompareExchange codec.Payload}
    (schema : pending.durable.schemaVersion = journalSchemaVersion)
    (bounded : ∀ hash lt, resolution = .confirmed hash lt → lt < u64Bound)
    (ok : pending.terminalMutation resolution = .ok (some mutation)) :
    ∃ durable, pending.resolved resolution = some durable ∧
      mutation.Stores (some pending.journalVersion) durable := by
  rw [terminalMutation] at ok
  cases resolved : pending.resolved resolution with
  | none => rw [resolved] at ok; cases ok
  | some durable =>
    rw [resolved] at ok
    obtain ⟨version, versioned, ok⟩ := except_bind_eq_ok.mp ok
    obtain ⟨payload, encoded, ok⟩ := except_bind_eq_ok.mp ok
    obtain rfl := Option.some.inj (Except.ok.inj ok)
    obtain ⟨shows, same⟩ := resolved_eq resolved
    refine ⟨durable, rfl, ?_, rfl, versioned, ?_⟩
    · rw [same]
      rfl
    · refine decodeDurableRecord_of_fromSlice (nextJournalVersion_ok versioned).1
        (JournalCodec.encode_ok encoded) (by rw [same]; exact schema) fun confirmed => ?_
      clear same
      cases resolution <;> simp_all [DurableSendRecord.Shows]

theorem terminalSendResolution_ok {record : JournalRecord codec.Payload}
    {recordId : NonEmptyString} {source : TonAddressString}
    (ok : terminalSendResolution codec record recordId source = .ok (some resolution)) :
    ∃ durable, decodeOwnedRecord codec record recordId source = .ok durable ∧
      durable.Shows resolution := by
  obtain ⟨durable, owned, ok⟩ := except_bind_eq_ok.mp ok
  refine ⟨durable, owned, ?_⟩
  cases stage : durable.stage with
  | confirmed =>
    rw [stage] at ok
    cases hash : durable.confirmedTransactionHash with
    | none => rw [hash] at ok; cases ok
    | some _ =>
      cases lt : durable.confirmedTransactionLt with
      | none => rw [hash, lt] at ok; cases ok
      | some _ => rw [hash, lt] at ok; cases ok; exact ⟨stage, hash, lt⟩
  | replaced | sequenceNumberConsumed | expired => rw [stage] at ok; cases ok; exact stage
  | _ => rw [stage] at ok; cases ok

end Resolution

namespace SendWorkflow

variable {workflow next : SendWorkflow} {directive : SendDirective codec}

section Stages

variable {event : SendEvent} {name : String} {stage : SendStage}

theorem nextStage_ok (ran : nextStage event name workflow = (.ok stage, next)) :
    workflow.stage.transition event = some stage ∧ next = workflow := by
  rw [nextStage, Region.get_bind] at ran
  rcases admitted : workflow.stage.transition event with _ | reached
  · rw [admitted] at ran
    cases ran
  · rw [admitted] at ran
    cases ran
    exact ⟨rfl, rfl⟩

/-- The stage a forward event leads to, in whatever stage the table admits it. -/
def SendEvent.target : SendEvent → Option SendStage
  | .begin => some .loadingJournal
  | .journalLoaded => some .fetchingFreshAccount
  | .freshAccountLoaded => some .authorizing
  | .preparedAccountLoaded | .authorizationSucceeded => some .preparing
  | .transferPrepared => some .persistingPrepared
  | .preparedJournalPersisted => some .readyToSubmit
  | .internalMessageJournalPersisted => some .handedOff
  | .submissionStarted => some .submitting
  | .submissionSucceeded => some .submitted
  | .submissionUnknown => some .submissionUnknown
  | .submissionRejected => some .failed
  | .terminalJournalPersisted | .journalConflict | .cancel => none

theorem transition_target {reached target : SendStage}
    (forward : SendEvent.target event = some target)
    (admitted : stage.transition event = some reached) : reached = target := by
  cases event <;> cases forward <;> cases stage <;> cases admitted <;> rfl

theorem nextStage_target {target : SendStage} (forward : SendEvent.target event = some target)
    (ran : nextStage event name workflow = (.ok stage, next)) :
    stage = target ∧ next = workflow := by
  obtain ⟨admitted, same⟩ := nextStage_ok ran
  exact ⟨transition_target forward admitted, same⟩

theorem applyEvent_target {target : SendStage} (forward : SendEvent.target event = some target)
    (ran : applyEvent event name workflow = (.ok (), next)) :
    next = { workflow with stage := target } := by
  rw [applyEvent, Region.bind_eq_ok] at ran
  obtain ⟨stage, between, found, ran⟩ := ran
  obtain ⟨rfl, rfl⟩ := nextStage_target forward found
  cases ran
  rfl

end Stages

section Methods

variable {account : FreshSendAccount} {prepared : PreparedTransfer}

/-- Only an absent slot, a record that permits replacement, or a forced override
of a complete signed message seeds the version. -/
theorem journalLoaded_ok {base : Option (JournalRecord codec.Payload)}
    (ran : journalLoaded codec base workflow = (.ok directive, next)) :
    next = { workflow with
      journalVersion := base.map (·.version), stage := .fetchingFreshAccount } ∧
    ∀ record ∈ base, ∃ durable,
      decodeOwnedRecord codec record workflow.recordId workflow.source = .ok durable ∧
      (durable.stage.permitsReplacement ∨
        (workflow.request.force ∧ durable.stage.permitsForcedReplacement)) := by
  rw [journalLoaded, Region.bind_eq_ok] at ran
  obtain ⟨stage, between, found, ran⟩ := ran
  obtain ⟨rfl, rfl⟩ := nextStage_target rfl found
  rw [Region.get_bind] at ran
  cases base with
  | none =>
    cases ran
    exact ⟨rfl, nofun⟩
  | some record =>
    obtain ⟨durable, _, lifted, ran⟩ := Region.bind_eq_ok.mp ran
    obtain ⟨decoded, rfl⟩ := Region.lift_eq_ok.mp lifted
    rw [Region.ite_apply] at ran
    split at ran
    · rename_i permitted
      cases ran
      refine ⟨rfl, ?_⟩
      rintro _ ⟨⟩
      exact ⟨durable, decoded, by simpa using permitted⟩
    · cases ran

theorem freshAccountLoaded_ok
    (ran : freshAccountLoaded codec account workflow = (.ok directive, next)) :
    next = { workflow with freshAccount := some account, stage := .authorizing } := by
  rw [freshAccountLoaded, Region.bind_eq_ok] at ran
  obtain ⟨stage, between, found, ran⟩ := ran
  obtain ⟨rfl, rfl⟩ := nextStage_target rfl found
  obtain ⟨_, ran⟩ := Region.guard_eq_ok.mp ran
  beta_reduce at ran
  rw [Region.modify_bind, Region.get_bind] at ran
  exact (Region.lift_eq_ok.mp ran).2.symm

theorem preparedAccountLoaded_ok (ran : preparedAccountLoaded account workflow = (.ok (), next)) :
    next = { workflow with freshAccount := some account, stage := .preparing } := by
  rw [preparedAccountLoaded, Region.bind_eq_ok] at ran
  obtain ⟨stage, between, found, ran⟩ := ran
  obtain ⟨rfl, rfl⟩ := nextStage_target rfl found
  obtain ⟨_, ran⟩ := Region.guard_eq_ok.mp ran
  cases ran
  rfl

theorem authorizationSucceeded_ok
    (ran : authorizationSucceeded codec workflow = (.ok directive, next)) :
    next = { workflow with stage := .preparing } := by
  rw [authorizationSucceeded, Region.bind_eq_ok] at ran
  obtain ⟨stage, between, found, ran⟩ := ran
  obtain ⟨rfl, rfl⟩ := nextStage_target rfl found
  rw [Region.get_bind] at ran
  cases loaded : between.freshAccount with
  | none => rw [loaded] at ran; cases ran
  | some account => rw [loaded] at ran; cases ran; rfl

theorem persistDirective_ok (ran : persistDirective codec workflow = (.ok directive, next)) :
    next = workflow ∧ ∃ mutation, workflow.persistMutation codec = .ok mutation ∧
      directive = .persistJournal mutation := by
  rw [persistDirective, Region.get_bind, Region.bind_eq_ok] at ran
  obtain ⟨mutation, between, lifted, ran⟩ := ran
  obtain ⟨stored, rfl⟩ := Region.lift_eq_ok.mp lifted
  cases ran
  exact ⟨rfl, mutation, stored, rfl⟩

/-- The mutation of a workflow stores the record of its prepared transfer. -/
theorem persistMutation_ok {mutation : JournalCompareExchange codec.Payload}
    (known : workflow.prepared = some prepared) (owned : prepared.recordId = workflow.recordId)
    (unconfirmed : workflow.durableStage ≠ .confirmed)
    (ok : workflow.persistMutation codec = .ok mutation) :
    mutation.Stores workflow.journalVersion (prepared.durable workflow.durableStage
      workflow.providerReference workflow.diagnostic) := by
  rw [persistMutation, journalRecord, preparedRef, known] at ok
  obtain ⟨record, recorded, ok⟩ := except_bind_eq_ok.mp ok
  obtain rfl := Except.ok.inj recorded
  obtain ⟨version, versioned, ok⟩ := except_bind_eq_ok.mp ok
  obtain ⟨payload, encoded, ok⟩ := except_bind_eq_ok.mp ok
  obtain rfl := Except.ok.inj ok
  refine ⟨?_, rfl, versioned, ?_⟩
  · simp [journalKey, PreparedTransfer.durable, owned]
  · exact decodeDurableRecord_of_fromSlice (nextJournalVersion_ok versioned).1
      (JournalCodec.encode_ok encoded) rfl (fun confirmed => absurd confirmed unconfirmed)

theorem validatePrepared_ok (ok : workflow.validatePrepared prepared = .ok ()) :
    ∃ account, workflow.freshAccount = some account ∧
      workflow.preparedMatches account prepared = true := by
  unfold validatePrepared at ok
  split at ok
  · cases ok
  · rename_i account loaded
    split at ok
    · rename_i accepted
      exact ⟨account, loaded, accepted⟩
    · cases ok

theorem preparedMatches_eq (accepted : workflow.preparedMatches account prepared = true) :
    prepared.recordId = workflow.recordId ∧ prepared.kind = workflow.kind := by
  simp only [preparedMatches, Bool.and_eq_true, beq_iff_eq] at accepted
  exact ⟨accepted.1.1.1.1.1.1.2, accepted.1.1.1.1.2⟩

theorem transferPrepared_ok
    (ran : transferPrepared codec prepared workflow = (.ok directive, next)) :
    next = { workflow with prepared := some prepared, stage := .persistingPrepared } ∧
      workflow.validatePrepared prepared = .ok () ∧
      ∃ mutation, next.persistMutation codec = .ok mutation ∧
        directive = .persistJournal mutation := by
  rw [transferPrepared, Region.bind_eq_ok] at ran
  obtain ⟨stage, between, found, ran⟩ := ran
  obtain ⟨rfl, rfl⟩ := nextStage_target rfl found
  rw [Region.get_bind, Region.bind_eq_ok] at ran
  obtain ⟨_, _, lifted, ran⟩ := ran
  obtain ⟨accepted, rfl⟩ := Region.lift_eq_ok.mp lifted
  rw [Region.set_bind] at ran
  obtain ⟨rfl, stored⟩ := persistDirective_ok ran
  exact ⟨rfl, accepted, stored⟩

theorem preparedRef_ok (ok : workflow.preparedRef = .ok prepared) :
    workflow.prepared = some prepared := by
  unfold preparedRef at ok
  split at ok
  · rename_i known
    cases ok
    exact known
  · cases ok

/-- After an applied write the reducer hands its prepared message on, or is
finished. -/
theorem journalPersisted_ok {result : JournalCompareExchangeResult codec.Payload}
    (ran : journalPersisted codec result workflow = (.ok directive, next)) :
    result.applied = true ∧ ∃ version, nextJournalVersion workflow.journalVersion = .ok version ∧
      workflow.stage.transition workflow.persistedEvent = some next.stage ∧
      next = { workflow with journalVersion := some version, stage := next.stage } ∧
      ((∃ prepared, workflow.prepared = some prepared ∧ next.stage = .readyToSubmit ∧
          directive = .submit prepared.signedBoc prepared.messageHash) ∨
        (∃ prepared, workflow.prepared = some prepared ∧ next.stage = .handedOff ∧
          directive = .handOff prepared.signedBoc prepared.validUntil) ∨
        directive = .finished) := by
  rw [journalPersisted] at ran
  cases applied : result.applied with
  | false =>
    simp only [applied, Bool.not_false, if_true] at ran
    obtain ⟨_, _, _, ran⟩ := Region.bind_eq_ok.mp ran
    cases ran
  | true =>
    simp only [applied, Bool.not_true, Bool.false_eq_true, if_false] at ran
    rw [Region.get_bind, Region.bind_eq_ok] at ran
    obtain ⟨stage, between, found, ran⟩ := ran
    obtain ⟨admitted, rfl⟩ := nextStage_ok found
    obtain ⟨version, _, lifted, ran⟩ := Region.bind_eq_ok.mp ran
    obtain ⟨versioned, rfl⟩ := Region.lift_eq_ok.mp lifted
    rw [Region.set_bind] at ran
    refine ⟨rfl, version, versioned, ?_⟩
    cases stage with
    | readyToSubmit =>
      obtain ⟨prepared, _, lifted, ran⟩ := Region.bind_eq_ok.mp ran
      obtain ⟨found, rfl⟩ := Region.lift_eq_ok.mp lifted
      have known := preparedRef_ok found
      cases ran
      exact ⟨admitted, rfl, .inl ⟨prepared, known, rfl, rfl⟩⟩
    | handedOff =>
      obtain ⟨prepared, _, lifted, ran⟩ := Region.bind_eq_ok.mp ran
      obtain ⟨found, rfl⟩ := Region.lift_eq_ok.mp lifted
      have known := preparedRef_ok found
      cases ran
      exact ⟨admitted, rfl, .inr (.inl ⟨prepared, known, rfl, rfl⟩)⟩
    | submissionUnknown | submitted | failed | cancelled =>
      cases ran
      exact ⟨admitted, rfl, .inr (.inr rfl)⟩
    | _ => cases ran

theorem submissionStarted_ok (ran : submissionStarted workflow = (.ok (), next)) :
    next = { workflow with stage := .submitting } :=
  applyEvent_target rfl ran

/-- The three outcomes of a submission: an event, a note of the outcome, and the
record that stores both. -/
theorem submissionNoted_ok {event : SendEvent} {name : String} {target : SendStage}
    {note : SendWorkflow → SendWorkflow} (forward : SendEvent.target event = some target)
    (ran : (do applyEvent event name; modify note; persistDirective codec) workflow =
      (.ok directive, next)) :
    next = note { workflow with stage := target } ∧ ∃ mutation,
      next.persistMutation codec = .ok mutation ∧ directive = .persistJournal mutation := by
  rw [Region.bind_eq_ok] at ran
  obtain ⟨_, between, moved, ran⟩ := ran
  obtain rfl := applyEvent_target forward moved
  rw [Region.modify_bind] at ran
  obtain ⟨rfl, stored⟩ := persistDirective_ok ran
  exact ⟨rfl, stored⟩

end Methods

end SendWorkflow

end WalletEngine
