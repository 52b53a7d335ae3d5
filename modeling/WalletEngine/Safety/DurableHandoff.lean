import WalletEngine.Host.Memory

/-! # Durable before handoff

No signed message leaves the engine, to the provider or to the caller, before
the host reported that a record of it is stored. This holds for any host. -/

namespace WalletEngine

variable {P : Platform} {host : HostModel P}

/-- The events of a wallet system. -/
abbrev WalletEvent (host : HostModel P) := (walletSystem host).Event

/-- Every step is permitted. -/
abbrev Unrestricted {S : System} : S.View → S.Event → Prop := fun _ _ => True

/-- The operation of `call` had stored its signed message: the host reported a
compare-exchange as applied whose record has this stage, the operation identifier
of the call, and the bytes and the hash of the message that the call signed. -/
structure DurablyStored (older : List (WalletEvent host)) (client routine : Nat)
    (call : PublicCall) (stage : SendStage) (boc : Boc) (config : WalletClientConfig)
    (prepared : PreparedTransfer) (mutation : JournalCompareExchange P.codec.Payload)
    (record : DurableSendRecord) : Prop where
  invoked : .invoked client routine call ∈ older
  applied : ∃ result : JournalCompareExchangeResult P.codec.Payload, result.applied = true ∧
    .observed client routine (.answered (.compareExchangeJournal mutation) (.ok result)) ∈ older
  slot : mutation.key = sendKey config
  decoded : decodeDurableRecord P.codec mutation.replacement = .ok record
  prepares : call.Prepares P config prepared
  staged : record.stage = stage
  operationId : call.operationId = some record.operationId
  signedBoc : record.signedBoc = boc
  sameBoc : prepared.signedBoc = boc
  messageHash : record.messageHash = prepared.messageHash

section Once

/-- An exchange that stores a message is the first of its operation. -/
theorem JournalMove.first {log : Log P} {call : PublicCall}
    {mutation : JournalCompareExchange P.codec.Payload} (move : JournalMove log call mutation)
    (commits : Commits mutation) : Uncommitted log := by
  obtain ⟨found, decoded, stage⟩ := commits
  cases move with
  | commit config prepared base configured prepares first based stores generation held =>
    exact first
  | resolve config pending subject resolution durable configured inspected unsettled examined
      sameOperation sameMessage evidence resolved stores =>
    obtain rfl : durable = found := Except.ok.inj (stores.decoded.symm.trans decoded)
    have permits := (PendingSendRecord.resolved_eq resolved).1.permitsReplacement
    rcases stage with stage | stage <;> rw [stage] at permits <;> cases permits
  | settle generation config prepared first request answer reference diagnostic external stored
      submitted answered stores =>
    obtain rfl := Except.ok.inj (stores.decoded.symm.trans decoded)
    change submissionStage _ = _ ∨ submissionStage _ = _ at stage
    rcases submissionStage_cases (answer.bind (parseSendResponse P.serde)) with
      same | same | same <;> rw [same] at stage <;> simp at stage

variable {allowed : (walletSystem host).View → WalletEvent host → Prop}
  {start view : (walletSystem host).View}

/-- Nothing was stored by an operation before it stores its message. -/
theorem commit_first (run : System.Run (walletContract host) allowed start view)
    (empty : start.history = []) {client routine : Nat} {newer older : List (WalletEvent host)}
    {mutation : JournalCompareExchange P.codec.Payload}
    {answer : HostCall.Answer P (.compareExchangeJournal mutation)}
    (recorded : view.history = newer ++
      .observed client routine (.answered (.compareExchangeJournal mutation) answer) :: older)
    (commits : Commits mutation) : Uncommitted (P := P) (System.traceOf routine older) := by
  obtain ⟨earlier, next, _, moved, _, same⟩ := run.origin empty recorded
  cases moved with
  | answered _ _ call _ _ _ _ _ _ _ obeyed _ =>
    rw [same] at obeyed
    exact JournalMove.first obeyed commits

/-- The observation of an exchange that stores a message. -/
def StoresMessage (observation : Observation State (walletHost P)) : Prop :=
  ∃ mutation answer, observation = .answered (.compareExchangeJournal mutation) answer ∧
    Commits mutation

/-- An operation tries to store a message once. -/
theorem commit_once (run : System.Run (walletContract host) allowed start view)
    (empty : start.history = []) {client owner routine : Nat}
    {first second : Observation State (walletHost P)}
    (firstSeen : .observed client routine first ∈ view.history)
    (secondSeen : .observed owner routine second ∈ view.history)
    (firstStores : StoresMessage first) (secondStores : StoresMessage second) : first = second := by
  refine System.observed_unique StoresMessage
    (fun {newer older owner observation} split stores => ?_)
    firstSeen secondSeen firstStores secondStores
  obtain ⟨mutation, answer, rfl, commits⟩ := stores
  rintro earlier member ⟨other, reply, rfl, commitsOther⟩
  exact commit_first run empty split commits other reply member commitsOther

end Once

section Handoff

variable {config : (walletSystem host).Config} {world : host.World}
variable {client routine : Nat} {boc : Boc} {older : List (WalletEvent host)}

/-- What an operation knows to be stored is stored. -/
theorem durablyStored_of_applied {allowed : (walletSystem host).View → WalletEvent host → Prop}
    {start view : (walletSystem host).View} {call : PublicCall} {stage : SendStage}
    {wallet : WalletClientConfig} {prepared : PreparedTransfer}
    {mutation : JournalCompareExchange P.codec.Payload} {expected : Option Nat}
    (run : System.Run (walletContract host) allowed start view) (empty : start.history = [])
    (started : .invoked client routine call ∈ view.history)
    (prepares : call.Prepares P wallet prepared)
    (stores : mutation.Stores expected (prepared.durable stage none none))
    (applied : Applied (System.traceOf routine view.history) mutation) :
    DurablyStored view.history client routine call stage prepared.signedBoc wallet prepared
      mutation (prepared.durable stage none none) := by
  obtain ⟨result, answered, written⟩ := applied
  obtain ⟨sameOperation, sameId, _⟩ := prepares.fields
  refine ⟨started, ⟨result, written, run.observed_of_mem_traceOf empty started answered⟩, ?_,
    stores.decoded, prepares, rfl, sameOperation, rfl, rfl, rfl⟩
  rw [stores.key, sendKey, ← sameId]
  rfl

/-- An operation that may submit has stored the message. -/
theorem durablyStored_of_callMove {allowed : (walletSystem host).View → WalletEvent host → Prop}
    {start view : (walletSystem host).View} {client routine : Nat} {call : PublicCall}
    {request : HttpRequest} {boc : Boc}
    (run : System.Run (walletContract host) allowed start view) (empty : start.history = [])
    (started : .invoked client routine call ∈ view.history)
    (move : CallMove (P := P) (System.traceOf routine view.history) call (.execute request))
    (submits : request.endpoint = .sendBoc boc) :
    ∃ wallet prepared mutation record, DurablyStored view.history client routine call
      .readyToSubmit boc wallet prepared mutation record := by
  obtain ⟨generation, wallet, prepared, mutation, external, rfl, stored⟩ := move boc submits
  obtain ⟨expected, stores⟩ := stored.stores
  rw [external] at stores
  exact ⟨wallet, prepared, mutation, _,
    durablyStored_of_applied run empty started stored.prepares stores stored.applied⟩

/-- The operation waits for the answer to a submission. -/
def Submitting (config : (walletSystem host).Config) (client routine : Nat) (boc : Boc) : Prop :=
  ∃ request next, config.routines routine = some (client, .await (.execute request) next) ∧
    request.endpoint = .sendBoc boc

/-- The operation hands no signed message over. -/
structure HandsNothingOver (config : (walletSystem host).Config) (routine : Nat) : Prop where
  submitting : ∀ client boc, ¬ Submitting config client routine boc
  submitted : ∀ client request answer boc, request.endpoint = .sendBoc boc →
    .observed client routine (.answered (.execute request) answer) ∉ config.history
  signed : ∀ client result, .returned client routine (.signed (.ok result)) ∉ config.history

/-- A signed message leaves the engine only after the host reported its record as
stored, and not at all if the host did not. -/
structure DurableBeforeHandoff (config : (walletSystem host).Config) : Prop where
  submitting : ∀ {client routine boc}, Submitting config client routine boc →
    ∃ call wallet prepared mutation record, DurablyStored config.history client routine call
      .readyToSubmit boc wallet prepared mutation record
  submitted : ∀ {client routine request answer boc newer older},
    config.history = newer ++ .observed client routine (.answered (.execute request) answer) ::
      older → request.endpoint = .sendBoc boc →
    ∃ call wallet prepared mutation record, DurablyStored older client routine call
      .readyToSubmit boc wallet prepared mutation record
  signed : ∀ {client routine result newer older},
    config.history = newer ++ .returned client routine (.signed (.ok result)) :: older →
    ∃ call wallet prepared mutation record, DurablyStored older client routine call
      .handedOff result.internalBoc wallet prepared mutation record
  refused : ∀ {client routine mutation answer},
    .observed client routine (.answered (.compareExchangeJournal mutation) answer) ∈
      config.history → Commits mutation →
    (∀ result : JournalCompareExchangeResult P.codec.Payload, answer = .ok result →
      result.applied = false) → HandsNothingOver config routine

theorem submitting_stored (reached : System.Reachable Unrestricted (System.initial world) config)
    (submitting : Submitting config client routine boc) :
    ∃ call wallet prepared mutation record, DurablyStored config.history client routine call
      .readyToSubmit boc wallet prepared mutation record := by
  obtain ⟨request, next, running, submits⟩ := submitting
  obtain ⟨call, started, obeys⟩ := walletSystem_suspended reached running
  exact ⟨call, durablyStored_of_callMove (walletSystem_disciplined reached) rfl started obeys.1
    submits⟩

theorem returned_stored (reached : System.Reachable Unrestricted (System.initial world) config)
    {result : SignMessageResult} {newer : List (WalletEvent host)} (recorded : config.history =
      newer ++ .returned client routine (.signed (.ok result)) :: older) :
    ∃ call wallet prepared mutation record, DurablyStored older client routine call
      .handedOff result.internalBoc wallet prepared mutation record := by
  have run := walletSystem_disciplined reached
  obtain ⟨earlier, next, before, moved, _, rfl⟩ := run.origin rfl recorded
  cases moved with
  | returned _ _ call _ _ _ started obeyed =>
    obtain ⟨wallet, prepared, mutation, known⟩ := obeyed
    obtain ⟨expected, stores⟩ := known.stores
    rw [← known.internalBoc]
    exact ⟨call, wallet, prepared, mutation, _,
      durablyStored_of_applied before rfl started known.prepares stores known.applied⟩

theorem submitted_stored (reached : System.Reachable Unrestricted (System.initial world) config)
    {request : HttpRequest} {answer : HostCall.Answer P (.execute request)}
    {newer : List (WalletEvent host)} (recorded : config.history =
      newer ++ .observed client routine (.answered (.execute request) answer) :: older)
    (submits : request.endpoint = .sendBoc boc) :
    ∃ call wallet prepared mutation record, DurablyStored older client routine call
      .readyToSubmit boc wallet prepared mutation record := by
  have run := walletSystem_disciplined reached
  obtain ⟨earlier, next, before, moved, _, rfl⟩ := run.origin rfl recorded
  cases moved with
  | answered _ _ call _ _ _ _ _ _ started obeyed _ =>
    exact ⟨call, durablyStored_of_callMove before rfl started obeyed submits⟩

theorem DurablyStored.commits {call : PublicCall} {stage : SendStage} {wallet : WalletClientConfig}
    {prepared : PreparedTransfer} {mutation : JournalCompareExchange P.codec.Payload}
    {record : DurableSendRecord}
    (stored : DurablyStored older client routine call stage boc wallet prepared mutation record)
    (commitStage : stage = .readyToSubmit ∨ stage = .handedOff) : Commits mutation :=
  ⟨record, stored.decoded, stored.staged ▸ commitStage⟩

/-- An operation without a stored message hands nothing over. -/
theorem handsNothingOver_of_unstored
    (reached : System.Reachable Unrestricted (System.initial world) config)
    (unstored : ∀ client mutation (result : JournalCompareExchangeResult P.codec.Payload),
      .observed client routine (.answered (.compareExchangeJournal mutation) (.ok result)) ∈
      config.history → result.applied = true → ¬ Commits mutation) :
    HandsNothingOver config routine where
  submitting client boc submitting := by
    obtain ⟨call, wallet, prepared, mutation, record, known⟩ := submitting_stored reached submitting
    obtain ⟨result, applied, answered⟩ := known.applied
    exact unstored client mutation result answered applied (known.commits (.inl rfl))
  submitted client request answer boc submits member := by
    obtain ⟨newer, older, split⟩ := List.append_of_mem member
    obtain ⟨call, wallet, prepared, mutation, record, known⟩ :=
      submitted_stored reached split submits
    obtain ⟨result, applied, answered⟩ := known.applied
    exact unstored client mutation result (System.subset_of_split split answered) applied
      (known.commits (.inl rfl))
  signed client result member := by
    obtain ⟨newer, older, split⟩ := List.append_of_mem member
    obtain ⟨call, wallet, prepared, mutation, record, known⟩ := returned_stored reached split
    obtain ⟨result, applied, answered⟩ := known.applied
    exact unstored client mutation result (System.subset_of_split split answered) applied
      (known.commits (.inr rfl))

/-- Durable before handoff, for every host and every interleaving. -/
theorem durable_before_handoff
    (reached : System.Reachable Unrestricted (System.initial world) config) :
    DurableBeforeHandoff config where
  submitting := submitting_stored reached
  submitted := submitted_stored reached
  signed := returned_stored reached
  refused {client routine mutation answer} observed commits refused := by
    refine handsNothingOver_of_unstored reached fun owner stored result answered applied other => ?_
    have same := commit_once (walletSystem_disciplined reached) rfl observed answered
      ⟨mutation, answer, rfl, commits⟩ ⟨stored, .ok result, rfl, other⟩
    cases same
    have contrary := refused result rfl
    rw [applied] at contrary
    cases contrary

end Handoff

/-- A transfer that is submitted and accepted. -/
def submittedSchedule : List plainHost.system.Action :=
  plainInvoke (.send ⟨⟨"transfer", by decide⟩, false, plainIntent⟩) ++
    plainAdvance 0 17 (accountBody "uninit" 100) ++ plainAdvance 0 8 acceptedBody

set_option maxRecDepth 20000 in
theorem durable_before_handoff_submitted : ∃ config,
    plainStart.run System.unchecked submittedSchedule = some config ∧
      plainStages config = [.submitted, .readyToSubmit] ∧ DurableBeforeHandoff config := by
  have ran : (plainStart.run System.unchecked submittedSchedule).map plainStages =
      some [.submitted, .readyToSubmit] := by decide +kernel
  obtain ⟨config, ran, stages⟩ := Option.map_eq_some_iff.mp ran
  exact ⟨config, ran, stages, durable_before_handoff (.of_unchecked ran)⟩

end WalletEngine
