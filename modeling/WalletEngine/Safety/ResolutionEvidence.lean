import WalletEngine.Safety.DurableHandoff

/-! # Resolution evidence belongs to its operation

A resolver that loses its compare-exchange takes over the terminal record it is
shown, without asking whose operation that record belongs to. Snapshots are
justified in all runs in which this never meets the record of another
operation. -/

namespace WalletEngine

variable {P : Platform}

section Reports

/-- The snapshot reports a resolution. -/
def SendSnapshot.Reports (snapshot : SendSnapshot) : SendResolution → Prop
  | .confirmed hash lt => snapshot.phase = .confirmed ∧
      ∃ info, snapshot.resolution = some info ∧ info.transactionHash = some hash ∧
        info.transactionLt = some lt
  | .replaced => snapshot.phase = .replaced
  | .sequenceNumberConsumed => snapshot.phase = .sequenceNumberConsumed
  | .expired => snapshot.phase = .expired
  | .stillPending _ => False

theorem PendingSendRecord.snapshot_reports {pending : PendingSendRecord P.codec}
    {resolution : SendResolution} (terminal : ∀ reason, resolution ≠ .stillPending reason) :
    (pending.snapshot resolution).Reports resolution := by
  cases resolution with
  | confirmed hash lt => exact ⟨rfl, _, rfl, rfl, rfl⟩
  | replaced => rfl
  | sequenceNumberConsumed => rfl
  | expired => rfl
  | stillPending reason => exact absurd rfl (terminal reason)

/-- A message that still blocks the slot is not shown as resolved. -/
theorem PendingSendRecord.snapshot_unresolved {pending : PendingSendRecord P.codec}
    {reason : PendingReason} (unsettled : pending.durable.stage.permitsReplacement = false) :
    (pending.snapshot (.stillPending reason)).phase.isResolved = false := by
  change pending.durable.stage.publicPhase.isResolved = false
  revert unsettled
  cases pending.durable.stage <;> decide

variable {durable : DurableSendRecord} {resolution other : SendResolution}

/-- A record shows one resolution. -/
theorem DurableSendRecord.Shows.unique (first : durable.Shows resolution)
    (second : durable.Shows other) : resolution = other := by
  cases resolution <;> cases other <;> simp_all [DurableSendRecord.Shows]

theorem DurableSendRecord.Shows.isResolved (shows : durable.Shows resolution) :
    durable.stage.publicPhase.isResolved = true := by
  cases resolution <;>
    simp_all [DurableSendRecord.Shows, SendStage.publicPhase, SendPhase.isResolved]

/-- The snapshot of a stored record reports what the record shows. -/
theorem sendSnapshotFromJournal_reports {codec : JournalCodec} {record : JournalRecord codec.Payload}
    {recordId : NonEmptyString} {source : TonAddressString} {snapshot : SendSnapshot}
    (read : sendSnapshotFromJournal codec record recordId source = .ok snapshot) :
    ∃ durable, decodeDurableRecord codec record = .ok durable ∧
      snapshot.operationId = some durable.operationId ∧
      snapshot.phase = durable.stage.publicPhase ∧
      ∀ resolution, durable.Shows resolution → snapshot.Reports resolution := by
  obtain ⟨durable, owned, built⟩ := except_bind_eq_ok.mp read
  cases built
  refine ⟨durable, (decodeOwnedRecord_ok owned).1, rfl, rfl, fun resolution shows => ?_⟩
  cases resolution with
  | confirmed hash lt =>
    obtain ⟨stage, sameHash, sameLt⟩ := shows
    refine ⟨by simp [stage, SendStage.publicPhase],
      ⟨durable.confirmedTransactionHash, durable.confirmedTransactionLt, none, false, none⟩, ?_,
      sameHash, sameLt⟩
    simp only [DurableSendRecord.resolutionInfo, stage]
  | replaced => exact congrArg SendStage.publicPhase shows
  | sequenceNumberConsumed => exact congrArg SendStage.publicPhase shows
  | expired => exact congrArg SendStage.publicPhase shows
  | stillPending reason => exact shows.elim

end Reports

section Justification

variable {host : JournalHost P}

/-- Evidence of a resolution was obtained for the message of an operation: the
journal holds a record of the operation, and the provider showed some operation of
a client what decides about that record. -/
def Justified (view : host.system.View) (operationId : NonEmptyString)
    (resolution : SendResolution) : Prop :=
  ∃ key record durable routine config, record ∈ host.journal view key ∧
    decodeDurableRecord P.codec record = .ok durable ∧ durable.operationId = operationId ∧
    Evidence (P := P) (System.traceOf routine view.history) config durable resolution

/-- A snapshot with a resolved phase reports what was justified for its operation. -/
def SnapshotJustified (view : host.system.View) (snapshot : SendSnapshot) : Prop :=
  snapshot.phase.isResolved = true → ∃ operationId resolution,
    snapshot.operationId = some operationId ∧ snapshot.Reports resolution ∧
      Justified view operationId resolution

/-- The records of the journal carry resolutions that were justified. -/
def JournalJustified (view : host.system.View) : Prop :=
  ∀ key, ∀ record ∈ host.journal view key,
    ∃ durable, decodeDurableRecord P.codec record = .ok durable ∧
      (durable.stage.publicPhase.isResolved = true → ∃ resolution, durable.Shows resolution ∧
        Justified view durable.operationId resolution)

/-- The record, if it decodes and carries a resolution. -/
def resolvedRecord (codec : JournalCodec) (record : JournalRecord codec.Payload) :
    Option DurableSendRecord :=
  (decodeDurableRecord codec record).toOption.filter (·.stage.publicPhase.isResolved)

theorem resolvedRecord_eq_some {codec : JournalCodec} {record : JournalRecord codec.Payload}
    {durable : DurableSendRecord} (decoded : decodeDurableRecord codec record = .ok durable)
    (resolved : durable.stage.publicPhase.isResolved = true) :
    resolvedRecord codec record = some durable := by
  rw [resolvedRecord, decoded]
  exact Option.filter_some_pos resolved

/-- A resolver does not meet the resolved record of another operation: when it
tries to store a resolution, the newest record of the slot carries none or belongs
to the same operation. -/
def meetsOwn (view : host.system.View) : host.system.Event → Bool
  | .observed _ _ (.answered (.compareExchangeJournal mutation) _) =>
    match resolvedRecord P.codec mutation.replacement,
      (host.journal view mutation.key).head?.bind (resolvedRecord P.codec) with
    | some attempt, some newest => newest.operationId = attempt.operationId
    | _, _ => true
  | _ => true

abbrev MeetsOwn (view : host.system.View) (event : host.system.Event) : Prop :=
  meetsOwn view event = true

variable {view next : host.system.View} {event : host.system.Event}
  {operationId : NonEmptyString} {resolution : SendResolution} {snapshot : SendSnapshot}

theorem Justified.move (known : Justified view operationId resolution)
    (moved : System.Move host.contract view event next) : Justified next operationId resolution := by
  obtain ⟨key, record, durable, routine, config, member, decoded, same, evidence⟩ := known
  refine ⟨key, record, durable, routine, config, (journal_suffix moved key).subset member, decoded,
    same, evidence.mono ?_⟩
  rw [moved.history_eq]
  exact (List.suffix_cons _ _).filterMap _

theorem SnapshotJustified.move (known : SnapshotJustified view snapshot)
    (moved : System.Move host.contract view event next) : SnapshotJustified next snapshot := by
  intro resolved
  obtain ⟨operationId, resolution, same, reports, justified⟩ := known resolved
  exact ⟨operationId, resolution, same, reports, justified.move moved⟩

/-- The record of a stored exchange carries a resolution only with its evidence. -/
theorem justified_of_exchange {routine : Nat} {call : PublicCall}
    {mutation : JournalCompareExchange P.codec.Payload} (coherent : Coherent host view)
    (move : JournalMove (P := P) (System.traceOf routine view.history) call mutation) :
    ∃ durable, decodeDurableRecord P.codec mutation.replacement = .ok durable ∧
      (durable.stage.publicPhase.isResolved = true → ∃ resolution, durable.Shows resolution ∧
        Justified view durable.operationId resolution) := by
  cases move with
  | resolve config pending subject resolution durable configured inspected unsettled examined
      sameOperation sameMessage evidence resolved stores =>
    obtain ⟨shows, same⟩ := PendingSendRecord.resolved_eq resolved
    refine ⟨durable, stores.decoded, fun _ => ⟨resolution, shows, sendKey config,
      subject.journal, subject.durable, routine, config, coherent.seen examined.1,
      (decodeOwnedRecord_ok examined.2).1, ?_, evidence⟩⟩
    rw [same]
    exact sameOperation
  | commit config prepared base configured prepares first based stores generation held =>
    refine ⟨_, stores.decoded, fun resolved => ?_⟩
    change prepared.kind.commitStage.publicPhase.isResolved = true at resolved
    cases kind : prepared.kind <;> rw [kind] at resolved <;> cases resolved
  | settle generation config prepared first request answer reference diagnostic external stored
      submitted answered stores =>
    refine ⟨_, stores.decoded, fun resolved => ?_⟩
    change (submissionStage _).publicPhase.isResolved = true at resolved
    rcases submissionStage_cases (answer.bind (parseSendResponse P.serde)) with
      same | same | same <;> rw [same] at resolved <;> cases resolved

theorem JournalJustified.move (known : JournalJustified view) (coherent : Coherent host view)
    (moved : System.Move host.contract view event next) : JournalJustified next := by
  intro key record member
  have keep : ∀ {durable : DurableSendRecord}, (durable.stage.publicPhase.isResolved = true →
      ∃ resolution, durable.Shows resolution ∧ Justified view durable.operationId resolution) →
      durable.stage.publicPhase.isResolved = true →
      ∃ resolution, durable.Shows resolution ∧ Justified next durable.operationId resolution := by
    intro durable backed resolved
    obtain ⟨resolution, shows, justified⟩ := backed resolved
    exact ⟨resolution, shows, justified.move moved⟩
  rcases journal_key_move moved key with same | ⟨_, _, call, mutation, _, move, rfl, _, stored⟩
  · rw [same] at member
    obtain ⟨durable, decoded, backed⟩ := known key record member
    exact ⟨durable, decoded, keep backed⟩
  · rw [stored] at member
    rcases List.mem_cons.mp member with rfl | earlier
    · obtain ⟨durable, decoded, backed⟩ := justified_of_exchange coherent move
      exact ⟨durable, decoded, keep backed⟩
    · obtain ⟨durable, decoded, backed⟩ := known mutation.key record earlier
      exact ⟨durable, decoded, keep backed⟩

/-- A refused exchange of the resolver showed the newest record of its slot. -/
theorem newest_of_refused {start : host.system.View}
    (run : System.Run host.contract MeetsOwn start view) (empty : start.history = [])
    {routine : Nat} {mutation : JournalCompareExchange P.codec.Payload}
    {record : JournalRecord P.codec.Payload} {attempt winner : DurableSendRecord}
    (refused : Refused (P := P) (System.traceOf routine view.history) mutation record)
    (attempted : decodeDurableRecord P.codec mutation.replacement = .ok attempt)
    (settles : attempt.stage.publicPhase.isResolved = true)
    (decoded : decodeDurableRecord P.codec record = .ok winner)
    (settled : winner.stage.publicPhase.isResolved = true) :
    winner.operationId = attempt.operationId := by
  obtain ⟨result, answered, applied, current⟩ := refused
  obtain ⟨client, observed⟩ := System.mem_traceOf.mp answered
  obtain ⟨newer, older, split⟩ := List.append_of_mem observed
  obtain ⟨earlier, next, _, moved, permitted, _⟩ := run.origin empty split
  have exchanged := exchanged_of_answered moved
  have newest : (host.journal earlier mutation.key).head? = some record := by
    generalize host.journal next = after at exchanged
    cases exchanged with
    | applied _ reported _ => rw [applied] at reported; cases reported
    | refused _ _ shown => exact shown.symm.trans current
  simp only [MeetsOwn, meetsOwn, resolvedRecord_eq_some attempted settles, newest, Option.bind_some,
    resolvedRecord_eq_some decoded settled, decide_eq_true_eq] at permitted
  exact permitted

/-- What an operation concluded is justified. -/
theorem snapshotJustified_of_concluded {start : host.system.View}
    (run : System.Run host.contract MeetsOwn start view) (empty : start.history = [])
    (coherent : Coherent host view) (journal : JournalJustified view) {routine : Nat}
    (concluded : Concluded (P := P) (System.traceOf routine view.history) snapshot) :
    SnapshotJustified view snapshot := by
  intro phase
  cases concluded with
  | resolved config pending resolution configured inspected unsettled why =>
    have terminal : ∀ reason, resolution ≠ .stillPending reason := by
      rintro reason rfl
      rw [PendingSendRecord.snapshot_unresolved unsettled] at phase
      cases phase
    refine ⟨pending.durable.operationId, resolution, rfl,
      PendingSendRecord.snapshot_reports terminal, ?_⟩
    cases why with
    | undecided reason same => exact absurd same (terminal reason)
    | evidence shown =>
      exact ⟨sendKey config, pending.journal, pending.durable, routine, config,
        coherent.seen inspected.1, (decodeOwnedRecord_ok inspected.2).1, rfl, shown⟩
    | adopted mutation attempt tried record winner attempted settles sameOperation sameMessage
        refused decoded shows =>
      have owned := (decodeOwnedRecord_ok decoded).1
      have same := newest_of_refused run empty refused attempted settles.isResolved owned
        shows.isResolved
      have seen : Seen (P := P) (System.traceOf routine view.history) mutation.key record :=
        .inr ⟨mutation, rfl, .inr refused⟩
      obtain ⟨found, foundDecoded, backed⟩ := journal _ record (coherent.seen seen)
      obtain rfl := Except.ok.inj (foundDecoded.symm.trans owned)
      obtain ⟨stored, storedShows, justified⟩ := backed shows.isResolved
      rw [← sameOperation, ← same, shows.unique storedShows]
      exact justified
  | stored config record snapshot configured seen read =>
    obtain ⟨durable, decoded, sameOperation, samePhase, reports⟩ :=
      sendSnapshotFromJournal_reports read
    obtain ⟨found, foundDecoded, backed⟩ := journal _ record (coherent.seen seen)
    obtain rfl := Except.ok.inj (foundDecoded.symm.trans decoded)
    obtain ⟨resolution, shows, justified⟩ := backed (samePhase ▸ phase)
    exact ⟨found.operationId, resolution, sameOperation, reports resolution shows, justified⟩

/-- Where a shown snapshot comes from. -/
theorem StateMove.shown_cases {log : Log P} {call : PublicCall} {before after : Tracked}
    (move : StateMove log call before after) :
    after.shown = before.shown ∨ after.shown.phase.isResolved = false ∨
      Concluded log after.shown := by
  cases move with
  | reserveSend snapshot first idle free running starts =>
    refine .inr (.inl ?_)
    rw [starts]
    rfl
  | showSend generation ids snapshot reserved active presentable live => exact .inr presentable
  | releaseSend generation ids snapshot reserved active presentable => exact .inr presentable
  | releaseResolution generation ids snapshot active presentable => exact presentable
  | cancel snapshot asked early presentable =>
    exact presentable.imp_right fun cancelled => .inl (by rw [cancelled]; rfl)
  | stop rounds snapshot asked early presentable =>
    exact presentable.imp_right fun cancelled => .inl (by rw [cancelled]; rfl)
  | _ => exact .inl rfl

end Justification

section Runs

variable {host : JournalHost P}

/-- Every snapshot that was published in the run or returned from it is justified. -/
structure EvidenceBelongs (view : host.system.View) : Prop where
  current : ∀ {client state}, view.clients client = some state →
    SnapshotJustified view (State.snapshot state).send
  published : ∀ {client routine before after},
    .observed client routine (.locked before after) ∈ view.history →
    SnapshotJustified view (State.snapshot after).send
  returned : ∀ {client routine reply snapshot},
    .returned client routine reply ∈ view.history → Reply.sendSnapshot? reply = some snapshot →
    SnapshotJustified view snapshot

variable {start view next : host.system.View} {event : host.system.Event}

theorem EvidenceBelongs.move (known : EvidenceBelongs view)
    (run : System.Run host.contract MeetsOwn start view) (empty : start.history = [])
    (coherent : Coherent host view) (journal : JournalJustified view)
    (moved : System.Move host.contract view event next) : EvidenceBelongs next := by
  have region : ∀ {client routine call before after}, view.clients client = some before →
      (walletRule P call).region (System.traceOf routine view.history) before after →
      SnapshotJustified next after.snapshot.send := by
    intro client routine call before after alive move
    rcases StateMove.shown_cases move with same | unresolved | concluded
    · change after.snapshot.send = before.snapshot.send at same
      rw [same]
      exact (known.current alive).move moved
    · intro resolved
      exact absurd (unresolved.symm.trans resolved) Bool.false_ne_true
    · exact (snapshotJustified_of_concluded run empty coherent journal concluded).move moved
  have history := moved.history_eq
  refine ⟨fun {client state} alive => ?_, fun {client routine before after} member => ?_,
    fun {client routine reply snapshot} member carries => ?_⟩
  · cases moved.clientMove client with
    | launched config same unused unseen becomes =>
      obtain rfl := Option.some.inj (alive.symm.trans becomes)
      intro resolved
      cases resolved
    | region routine call before after same alive' becomes started obeyed =>
      obtain rfl := Option.some.inj (alive.symm.trans becomes)
      exact region alive' obeyed
    | crashed same becomes =>
      rw [becomes] at alive
      cases alive
    | other same quiet => exact (known.current (same.symm.trans alive)).move moved
  · rw [history] at member
    rcases List.mem_cons.mp member with rfl | earlier
    · cases moved with
      | locked _ _ call _ _ alive started obeyed => exact region alive obeyed
    · exact (known.published earlier).move moved
  · rw [history] at member
    rcases List.mem_cons.mp member with rfl | earlier
    · have shown : SnapshotJustified view snapshot := by
        cases moved with
        | returned _ _ call _ _ alive started obeyed =>
          obtain ⟨before, after, held, rfl⟩ := ReplyKnown.displayed obeyed carries
          obtain ⟨owner, observed⟩ := System.mem_traceOf.mp held
          exact known.published observed
      exact shown.move moved
    · exact (known.returned earlier carries).move moved

theorem evidenceBelongs_of_run (run : System.Run host.contract MeetsOwn start view)
    (empty : start.history = []) (unlaunched : ∀ client, start.clients client = none)
    (unwritten : ∀ key, host.journal start key = []) :
    JournalJustified view ∧ EvidenceBelongs view := by
  induction run with
  | refl =>
    refine ⟨fun key record member => ?_, ?_, ?_, ?_⟩
    · rw [unwritten key] at member
      cases member
    · intro client state alive
      rw [unlaunched client] at alive
      cases alive
    · intro client routine before after member
      rw [empty] at member
      cases member
    · intro client routine reply snapshot member
      rw [empty] at member
      cases member
  | move reached moved permitted known =>
    have ordered : (host.journal start).Ordered := fun key => by
      rw [unwritten key]
      exact Versioned.ordered_nil
    have coherent := Coherent.of_run reached empty ordered
    exact ⟨known.1.move coherent moved, known.2.move reached empty coherent known.1 moved⟩

/-- Resolution evidence belongs to the operation it is published for, in every
run in which no resolver meets the settled record of another operation. -/
theorem resolution_evidence_belongs {world : host.World} {config : host.system.Config}
    (unwritten : ∀ key, host.slots world key = [])
    (reached : System.Reachable MeetsOwn (System.initial world) config) :
    EvidenceBelongs config.toView :=
  (evidenceBelongs_of_run (walletSystem_disciplined reached) rfl (fun _ => rfl) unwritten).2

end Runs

section Schedules

def plainTransfer (name : String) (named : (trim name.toList).isEmpty = false) : PublicCall :=
  .send ⟨⟨name, named⟩, false, plainIntent⟩

/-- A submitted transfer is resolved as expired. -/
def expiredSchedule : List plainHost.system.Action :=
  plainInvoke (plainTransfer "x" (by decide)) ++ plainAdvance 0 17 (accountBody "uninit" 100) ++
    plainAdvance 0 8 acceptedBody ++ [.invoke 0 .resolvePending] ++
    plainAdvance 1 5 (accountBody "uninit" 200) ++ plainAdvance 1 7 noTransactionsBody ++
    plainAdvance 1 6 (walletBody 0)

set_option maxRecDepth 20000 in
theorem resolution_evidence_belongs_expired : ∃ config,
    plainStart.run meetsOwn expiredSchedule = some config ∧
      plainStages config = [.expired, .submitted, .readyToSubmit] ∧
      EvidenceBelongs config.toView := by
  have ran : (plainStart.run meetsOwn expiredSchedule).map plainStages =
      some [.expired, .submitted, .readyToSubmit] := by decide +kernel
  obtain ⟨config, ran, stages⟩ := Option.map_eq_some_iff.mp ran
  exact ⟨config, ran, stages,
    resolution_evidence_belongs (fun _ => rfl) (.of_run (fun _ _ own => own) ran)⟩

/-- While client 0 is about to record that `x` expired, client 1 does so, sends `y`
and learns that `y` was confirmed. -/
def foreignSchedule : List plainHost.system.Action :=
  plainInvoke (plainTransfer "x" (by decide)) ++ plainAdvance 0 17 (accountBody "uninit" 100) ++
    plainAdvance 0 8 acceptedBody ++ [.invoke 0 .resolvePending] ++
    plainAdvance 1 5 (accountBody "uninit" 200) ++ plainAdvance 1 7 noTransactionsBody ++
    plainAdvance 1 2 (walletBody 0) ++
    [.launch plainConfig, .invoke 1 .resolvePending] ++
    plainAdvance 2 5 (accountBody "uninit" 200) ++ plainAdvance 2 7 noTransactionsBody ++
    plainAdvance 2 6 (walletBody 0) ++
    [.invoke 1 (plainTransfer "y" (by decide))] ++
    plainAdvance 3 17 (accountBody "uninit" 300) ++ plainAdvance 3 8 acceptedBody ++
    [.invoke 1 .resolvePending] ++ plainAdvance 4 5 (accountBody "uninit" 300) ++
    plainAdvance 4 7 (transactionBody "y") ++ plainAdvance 1 4 noTransactionsBody

/-- The messages of an operation that were written to the journal. -/
def writtenMessages (operationId : NonEmptyString) (history : List plainHost.system.Event) :
    List Base64Hash :=
  history.filterMap fun
    | .observed _ _ (.answered (.compareExchangeJournal mutation) _) =>
      let durable : DurableSendRecord := mutation.replacement.payload
      if durable.operationId = operationId then some durable.messageHash else none
    | _ => none

/-- The requests that the provider answered with a transaction. -/
def foundTransactions (history : List plainHost.system.Event) : List Endpoint :=
  history.filterMap fun
    | .observed _ _ (.answered (.execute request) (.ok body)) =>
      match parseExecutedMessage plainPlatform.serde plainPlatform.hashFrom body with
      | .ok (some _) => some request.endpoint
      | _ => none
    | _ => none

/-- A confirmation without a transaction for a message of the operation is not justified. -/
theorem not_justified_of_unfound {config : plainHost.system.Config} {operationId : NonEmptyString}
    {hash : Base64Hash} {lt : UnsignedDecimalString}
    (reached : System.Reachable Unrestricted plainStart config)
    (unfound : ∀ message ∈ writtenMessages operationId config.history,
      .transactionsByMessage message ∉ foundTransactions config.history) :
    ¬ Justified config.toView operationId (.confirmed hash lt) := by
  rintro ⟨key, record, durable, routine, wallet, member, decoded, rfl, evidence⟩
  obtain ⟨client, owner, mutation, answer, observed, rfl⟩ :=
    written_of_mem (walletSystem_disciplined reached) (fun _ => rfl) member
  have written : durable.messageHash ∈ writtenMessages durable.operationId config.history := by
    obtain ⟨_, sliced, _⟩ := decodeDurableRecord_ok decoded
    obtain rfl : mutation.replacement.payload = durable := Except.ok.inj sliced
    exact List.mem_filterMap.mpr ⟨_, observed, if_pos rfl⟩
  cases evidence with
  | confirmed executed external found =>
    obtain ⟨request, body, endpoint, answered, parsed⟩ := found
    obtain ⟨asker, answered⟩ := System.mem_traceOf.mp answered
    refine unfound _ written (List.mem_filterMap.mpr ⟨_, answered, ?_⟩)
    simp only [parsed, endpoint]

/-- Client 0 shows `x` as confirmed, and no message of `x` was found executed. -/
def showsForeign (config : plainHost.system.Config) : Bool :=
  (config.clients 0).any (fun state : State =>
      state.snapshot.send.operationId = some ⟨"x", by decide⟩ ∧
        state.snapshot.send.phase = .confirmed) &&
    (writtenMessages ⟨"x", by decide⟩ config.history).all fun message =>
      .transactionsByMessage message ∉ foundTransactions config.history

set_option maxRecDepth 20000 in
theorem resolution_evidence_foreign : ∃ config state,
    plainStart.run System.unchecked foreignSchedule = some config ∧
      config.clients 0 = some state ∧
      (State.snapshot state).send.operationId = some ⟨"x", by decide⟩ ∧
      (State.snapshot state).send.phase = .confirmed ∧
      ¬ SnapshotJustified config.toView (State.snapshot state).send := by
  have ran : (plainStart.run System.unchecked foreignSchedule).map showsForeign = some true := by
    decide +kernel
  obtain ⟨config, ran, shown⟩ := Option.map_eq_some_iff.mp ran
  obtain ⟨shown, unfound⟩ := Bool.and_eq_true_iff.mp shown
  obtain ⟨state, alive, sends⟩ := (Option.any_eq_true _ _).mp shown
  obtain ⟨sameOperation, phase⟩ := of_decide_eq_true sends
  refine ⟨config, state, ran, alive, sameOperation, phase, fun justified => ?_⟩
  obtain ⟨operationId, resolution, operation, reports, justified⟩ :=
    justified (by rw [phase]; rfl)
  obtain rfl := Option.some.inj (sameOperation.symm.trans operation)
  cases resolution with
  | confirmed hash lt =>
    refine not_justified_of_unfound (.of_unchecked ran) (fun message written => ?_) justified
    exact of_decide_eq_true (List.all_eq_true.mp unfound message written)
  | replaced => cases phase.symm.trans reports
  | sequenceNumberConsumed => cases phase.symm.trans reports
  | expired => cases phase.symm.trans reports
  | stillPending reason => exact reports

end Schedules

end WalletEngine
