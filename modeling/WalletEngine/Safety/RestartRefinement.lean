import WalletEngine.Safety.ReducerLaw

/-! # A restart finds the message again

The reducer lives in memory and its record in the journal. Whatever a workflow asks to persist,
and whatever the resolver makes of it, a client that knows nothing but the stored bytes reads the
same message back, and the three readers of a record agree on whether it still blocks the slot
and on whether it takes an explicit override to replace it. -/

namespace WalletEngine

variable {codec : JournalCodec}

section Reading

/-- The record is about the signed message, with everything its signature covers. -/
structure DurableSendRecord.Carries (durable : DurableSendRecord) (prepared : PreparedTransfer) :
    Prop where
  operationId : durable.operationId = prepared.operationId
  recordId : durable.recordId = prepared.recordId
  source : durable.source = prepared.source
  kind : durable.kind = prepared.kind
  messages : durable.messages = prepared.messages
  seqno : durable.seqno = prepared.seqno
  needsStateInit : durable.needsStateInit = prepared.needsStateInit
  validUntil : durable.validUntil = prepared.validUntil
  signedBoc : durable.signedBoc = prepared.signedBoc
  messageHash : durable.messageHash = prepared.messageHash

/-- The snapshot offers an explicit override. -/
def SendSnapshot.offersForce (snapshot : SendSnapshot) : Bool :=
  snapshot.resolution.any (·.canForceRetry)

/-- The workflow with the override of its request switched on or off. -/
def SendWorkflow.forcing (workflow : SendWorkflow) (force : Bool) : SendWorkflow :=
  { workflow with request := { workflow.request with force } }

/-- A workflow that loads the record is refused without the override and goes on with it. -/
def TakesForce (record : JournalRecord codec.Payload) (workflow : SendWorkflow) : Prop :=
  (SendWorkflow.journalLoaded codec (some record) (workflow.forcing false)).1 =
      .error .previousSubmissionUnresolved ∧
    (SendWorkflow.journalLoaded codec (some record) (workflow.forcing true)).1 =
      .ok .fetchFreshAccount

/-- The snapshot is that of a message in the given stage, and offers the override exactly when
the next send of the wallet needs it. -/
structure SendSnapshot.Reflects (snapshot : SendSnapshot) (record : JournalRecord codec.Payload)
    (durable : DurableSendRecord) : Prop where
  operationId : snapshot.operationId = some durable.operationId
  phase : snapshot.phase = durable.stage.publicPhase
  force : ∀ workflow : SendWorkflow, workflow.recordId = durable.recordId →
    workflow.source = durable.source → workflow.stage = .loadingJournal →
      (snapshot.offersForce = true ↔ TakesForce record workflow)

/-- What a client that restarts on a record of the message reads. -/
structure Restarts (record : JournalRecord codec.Payload) (prepared : PreparedTransfer)
    (durable : DurableSendRecord) : Prop where
  decoded : decodeDurableRecord codec record = .ok durable
  carries : durable.Carries prepared
  shown : ∃ snapshot, sendSnapshotFromJournal codec record prepared.recordId prepared.source =
    .ok snapshot ∧ snapshot.Reflects record durable
  blocking : pendingSendRecord codec record prepared.recordId prepared.source =
    .ok (if durable.stage.permitsReplacement then none else some ⟨durable, record⟩)
  watched : durable.stage.permitsReplacement = false → ∀ reason,
    ((⟨durable, record⟩ : PendingSendRecord codec).snapshot (.stillPending reason)).Reflects
      record durable

end Reading

section Readers

variable {record : JournalRecord codec.Payload} {durable : DurableSendRecord}

/-- Loading a record is a matter of its stage and of the override. -/
theorem journalLoaded_apply (workflow : SendWorkflow)
    (decoded : decodeDurableRecord codec record = .ok durable)
    (sameId : workflow.recordId = durable.recordId) (sameSource : workflow.source = durable.source)
    (loading : workflow.stage = .loadingJournal) :
    (SendWorkflow.journalLoaded codec (some record) workflow).1 =
      if durable.stage.permitsReplacement ||
          (workflow.request.force && durable.stage.permitsForcedReplacement)
      then .ok .fetchFreshAccount else .error .previousSubmissionUnresolved := by
  have admitted : workflow.stage.transition .journalLoaded = some .fetchingFreshAccount := by
    rw [loading]
    rfl
  have owned := decodeOwnedRecord_of_decoded decoded
  rw [← sameId, ← sameSource] at owned
  rw [SendWorkflow.journalLoaded, Region.bind_of_ok (SendWorkflow.nextStage_of_some admitted),
    Region.get_bind]
  dsimp only
  rw [owned, Region.bind_of_ok (Region.lift_apply _ _), Region.ite_apply]
  split <;> rfl

/-- Only an unresolved message takes the override. -/
theorem takesForce_iff {workflow : SendWorkflow}
    (decoded : decodeDurableRecord codec record = .ok durable)
    (sameId : workflow.recordId = durable.recordId) (sameSource : workflow.source = durable.source)
    (loading : workflow.stage = .loadingJournal) :
    TakesForce record workflow ↔ durable.stage.permitsForcedReplacement = true := by
  unfold TakesForce
  rw [journalLoaded_apply (workflow.forcing false) decoded sameId sameSource loading,
    journalLoaded_apply (workflow.forcing true) decoded sameId sameSource loading]
  cases durable.stage <;> simp [SendWorkflow.forcing, SendStage.permitsReplacement,
    SendStage.permitsForcedReplacement]

/-- The snapshot made from a stored record. -/
theorem stored_reflects (decoded : decodeDurableRecord codec record = .ok durable) :
    SendSnapshot.Reflects ⟨some durable.operationId, durable.stage.publicPhase, durable.diagnostic,
      durable.resolutionInfo⟩ record durable where
  operationId := rfl
  phase := rfl
  force workflow sameId sameSource loading := by
    rw [takesForce_iff decoded sameId sameSource loading]
    unfold SendSnapshot.offersForce DurableSendRecord.resolutionInfo
    cases durable.stage <;> simp [SendStage.permitsForcedReplacement]

/-- The snapshot of a message that the resolver leaves pending. -/
theorem pending_reflects (decoded : decodeDurableRecord codec record = .ok durable)
    (reason : PendingReason) :
    ((⟨durable, record⟩ : PendingSendRecord codec).snapshot (.stillPending reason)).Reflects
      record durable where
  operationId := rfl
  phase := rfl
  force workflow sameId sameSource loading := by
    rw [takesForce_iff decoded sameId sameSource loading]
    exact Iff.rfl

/-- The three readers of a record agree on it. -/
theorem Restarts.of_decoded {prepared : PreparedTransfer}
    (decoded : decodeDurableRecord codec record = .ok durable)
    (carries : durable.Carries prepared) : Restarts record prepared durable := by
  have owned := decodeOwnedRecord_of_decoded decoded
  rw [carries.recordId, carries.source] at owned
  refine ⟨decoded, carries, ⟨_, ?_, stored_reflects decoded⟩, ?_,
    fun _ reason => pending_reflects decoded reason⟩
  · rw [sendSnapshotFromJournal, owned]
    rfl
  · rw [pendingSendRecord, owned]
    change (if durable.stage.permitsReplacement = true then pure none else pure _) = _
    split <;> rfl

end Readers

section Workflows

variable (codec) in
/-- The workflows that calls lead to, in whatever order they come. -/
inductive SendWorkflow.Reaches (first : SendWorkflow) : SendWorkflow → Prop
  | start : Reaches first first
  | call {workflow : SendWorkflow} (call : SendCall codec) :
      Reaches first workflow → Reaches first (call.region workflow).2

variable {first workflow : SendWorkflow}

theorem SendWorkflow.Reaches.sound (reached : SendWorkflow.Reaches codec first workflow)
    (fresh : first.stage = .validating) (unprepared : first.prepared = none) :
    first.Sound workflow := by
  induction reached with
  | start => exact .start fresh unprepared
  | call call reached ih => exact ih.step (SendWorkflow.region_effect call)

/-- What a call asks to persist is the workflow it leaves. -/
theorem SendWorkflow.Effect.persistMutation {next : SendWorkflow} {call : SendCall codec}
    {mutation : JournalCompareExchange codec.Payload}
    (effect : workflow.Effect call (.ok (some (.persistJournal mutation))) next) :
    next.persistMutation codec = .ok mutation := by
  generalize returned : (.ok (some (.persistJournal mutation)) : SendOutcome codec) = outcome
    at effect
  have asked : ∀ left : SendWorkflow, Except.ok (some (.persistJournal mutation)) =
      (left.persisting : SendOutcome codec) → left.persistMutation codec = .ok mutation := by
    intro left same
    unfold SendWorkflow.persisting at same
    cases made : left.persistMutation codec with
    | error error => rw [made] at same; cases same
    | ok found => rw [made] at same; cases same; rfl
  cases effect with
  | prepared prepared account origin loaded accepted => exact asked _ returned
  | noted call next origin noted => exact asked _ returned
  | cancelled running present => exact asked _ returned
  | account account origin =>
    rcases readSecretDirective_cases { workflow with
      freshAccount := some account, stage := .authorizing } with ⟨read, found⟩ | ⟨error, failed⟩
    · rw [found] at returned
      cases returned
    · rw [failed] at returned
      cases returned
  | persisted result stage version _ applied versioned issues => cases issues <;> cases returned
  | _ => cases returned

/-- A resolution changes nothing that the record carries. -/
theorem DurableSendRecord.Carries.resolved {prepared : PreparedTransfer}
    {pending : PendingSendRecord codec} {resolution : SendResolution} {durable : DurableSendRecord}
    (carries : pending.durable.Carries prepared)
    (resolved : pending.resolved resolution = some durable) : durable.Carries prepared := by
  rw [(PendingSendRecord.resolved_eq resolved).2]
  exact ⟨carries.1, carries.2, carries.3, carries.4, carries.5, carries.6, carries.7, carries.8,
    carries.9, carries.10⟩

theorem DurableSendRecord.Shows.publicPhase {durable : DurableSendRecord}
    {pending : PendingSendRecord codec} {resolution : SendResolution}
    (shows : durable.Shows resolution) :
    (pending.snapshot resolution).phase = durable.stage.publicPhase := by
  cases resolution with
  | confirmed hash lt => rw [shows.1]; rfl
  | replaced | sequenceNumberConsumed | expired =>
    rw [show durable.stage = _ from shows]
    rfl
  | stillPending reason => exact shows.elim

end Workflows

/-- Every record that a workflow asks to persist, and every terminal record that the resolver
makes of it on the evidence it was shown, restarts as the message of the workflow. -/
theorem journal_restarts {P : Platform} {recordId : NonEmptyString} {source : TonAddressString}
    {request : SendRequest} {localSecretRef : Option ProtectedSecretRef} {kind : SignedMessageKind}
    {workflow : SendWorkflow} {call : SendCall P.codec}
    {mutation : JournalCompareExchange P.codec.Payload}
    (reached : SendWorkflow.Reaches P.codec
      (.newWithKind recordId source request localSecretRef kind) workflow)
    (asked : (call.region workflow).1 = .ok (some (.persistJournal mutation))) :
    ∃ prepared durable, (call.region workflow).2.prepared = some prepared ∧
      durable.stage = (call.region workflow).2.durableStage ∧
      Restarts mutation.replacement prepared durable ∧
      ∀ (log : Log P) config subject pending resolution terminal,
        pendingSendRecord P.codec mutation.replacement prepared.recordId prepared.source =
          .ok (some pending) →
        Evidence log config subject resolution →
        pending.terminalMutation resolution = .ok (some terminal) →
        ∃ resolved, Restarts terminal.replacement prepared resolved ∧
          resolved.Shows resolution ∧
          (pending.snapshot resolution).phase = resolved.stage.publicPhase := by
  have sound := (SendWorkflow.Reaches.call call reached).sound rfl rfl
  have effect : workflow.Effect call _ _ := SendWorkflow.region_effect call
  rw [asked] at effect
  obtain ⟨prepared, known, stores⟩ := sound.stores effect.persistMutation
  have carries : (prepared.durable (call.region workflow).2.durableStage
      (call.region workflow).2.providerReference (call.region workflow).2.diagnostic).Carries
      prepared := ⟨rfl, rfl, rfl, rfl, rfl, rfl, rfl, rfl, rfl, rfl⟩
  refine ⟨prepared, _, known, rfl, .of_decoded stores.decoded carries, ?_⟩
  intro log config subject pending resolution terminal blocks evidence written
  obtain ⟨-, owned, -⟩ := pendingSendRecord_ok blocks
  have decoded := (decodeOwnedRecord_ok owned).1
  have same := Except.ok.inj (stores.decoded.symm.trans decoded)
  obtain ⟨resolved, found, settled⟩ := PendingSendRecord.terminalMutation_ok
    (decodeDurableRecord_ok decoded).2.2 evidence.lt_bound written
  have shows := (PendingSendRecord.resolved_eq found).1
  exact ⟨resolved, .of_decoded settled.decoded ((same ▸ carries).resolved found), shows,
    shows.publicPhase⟩

/-- The record of a message that is about to be submitted. -/
theorem journal_restarts_prepared :
    ∃ (mutation : JournalCompareExchange plainPlatform.codec.Payload) (durable : DurableSendRecord),
      Restarts mutation.replacement samplePrepared durable ∧ durable.stage = .readyToSubmit := by
  have reached : SendWorkflow.Reaches plainPlatform.codec sampleWorkflow _ :=
    .call (.preparedAccountLoaded ⟨.active, 3⟩) (.call (.journalLoaded none) (.call .begin .start))
  obtain ⟨prepared, durable, known, stage, restarts, -⟩ :=
    @journal_restarts plainPlatform _ _ _ _ _ _ (.transferPrepared samplePrepared) _ reached rfl
  obtain rfl : samplePrepared = prepared := Option.some.inj known
  exact ⟨_, durable, restarts, stage⟩

end WalletEngine
