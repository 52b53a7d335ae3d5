import WalletEngine.Host.Memory
import WalletEngine.Wallet.ReducerCalls

/-! # The law of the send reducer

Whatever is called on a workflow and in whatever order, as long as each write it asks for is
answered once: it commits at most one signed message, only after the write of exactly that
message was applied, and every record it writes is about that message. -/

namespace WalletEngine

variable (codec : JournalCodec)

/-- One call of a run, with what it found and what it left. -/
structure SendEntry where
  before : SendWorkflow
  call : SendCall codec
  outcome : SendOutcome codec
  after : SendWorkflow

variable {codec}

namespace SendEntry

def of (workflow : SendWorkflow) (call : SendCall codec) : SendEntry codec :=
  ⟨workflow, call, (call.region workflow).1, (call.region workflow).2⟩

def directive (entry : SendEntry codec) : Option (SendDirective codec) :=
  match entry.outcome with
  | .ok directive => directive
  | .error _ => none

/-- The write that the call asks for. -/
def persist (entry : SendEntry codec) : Option (JournalCompareExchange codec.Payload) :=
  match entry.directive with
  | some (.persistJournal mutation) => some mutation
  | _ => none

/-- The call hands the signed message on. -/
def commits (entry : SendEntry codec) : Bool :=
  match entry.directive with
  | some (.submit _ _) | some (.handOff _ _) => true
  | _ => false

end SendEntry

section Runs

/-- The write that the last call asked for and that has not been answered. -/
def outstanding (entries : List (SendEntry codec)) :
    Option (JournalCompareExchange codec.Payload) :=
  entries.getLast?.bind SendEntry.persist

/-- A write is answered before anything else is called, and answered once. A report of a write
that nobody asked for is possible only while there is nothing to write. -/
def Permitted (entries : List (SendEntry codec)) (workflow : SendWorkflow) : SendCall codec → Prop
  | .journalPersisted _ => outstanding entries ≠ none ∨ workflow.prepared = none
  | _ => outstanding entries = none

/-- A sequence of calls on a workflow. -/
inductive SendRun (first : SendWorkflow) : List (SendEntry codec) → SendWorkflow → Prop
  | start : SendRun first [] first
  | call {entries : List (SendEntry codec)} {workflow : SendWorkflow} (call : SendCall codec) :
      SendRun first entries workflow → Permitted entries workflow call →
        SendRun first (entries ++ [.of workflow call]) (call.region workflow).2

/-- The version last loaded or applied, and the one last offered. -/
structure SlotVersions where
  settled : Option Nat
  offered : Option Nat

def SlotVersions.next (versions : SlotVersions) (entry : SendEntry codec) : SlotVersions :=
  match entry.call, entry.outcome with
  | .journalLoaded record, .ok _ => ⟨record.map (·.version), none⟩
  | .journalPersisted result, .ok _ =>
    if result.applied then ⟨versions.offered.or versions.settled, none⟩ else versions
  | _, .ok (some (.persistJournal mutation)) =>
    { versions with offered := some mutation.replacement.version }
  | _, _ => versions

def slotVersions (entries : List (SendEntry codec)) : SlotVersions :=
  entries.foldl SlotVersions.next ⟨none, none⟩

end Runs

section Law

/-- Two records of one signed message. -/
structure DurableSendRecord.SameMessage (first second : DurableSendRecord) : Prop where
  operationId : first.operationId = second.operationId
  signedBoc : first.signedBoc = second.signedBoc
  messageHash : first.messageHash = second.messageHash
  seqno : first.seqno = second.seqno
  messages : first.messages = second.messages
  validUntil : first.validUntil = second.validUntil

/-- The record carries what the workflow was asked for and the account it was made for. -/
structure DurableSendRecord.Answers (durable : DurableSendRecord) (first : SendWorkflow)
    (account : FreshSendAccount) : Prop where
  operationId : durable.operationId = first.request.operationId
  recordId : durable.recordId = first.recordId
  source : durable.source = first.source
  messages : durable.messages = first.request.intent.messages
  validUntil : ∀ unixTimestamp, first.request.intent.expiration = .exact unixTimestamp →
    durable.validUntil = unixTimestamp
  seqno : durable.seqno = account.seqno
  needsStateInit : durable.needsStateInit = account.needsStateInit

/-- The directive hands on the message of a committed record. -/
def DurableSendRecord.HandsOn (durable : DurableSendRecord) (directive : SendDirective codec) :
    Prop :=
  directive = .submit durable.signedBoc durable.messageHash ∧ durable.stage = .readyToSubmit ∧
      durable.kind = .external ∨
    directive = .handOff durable.signedBoc durable.validUntil ∧ durable.stage = .handedOff ∧
      durable.kind = .internal

/-- What holds of a call behind the earlier ones. -/
structure SendLaw (first : SendWorkflow) (front : List (SendEntry codec))
    (entry : SendEntry codec) : Prop where
  refused : entry.before.stage.transition (entry.call.event entry.before) = none →
    entry.after = entry.before
  once : entry.commits = true → ∀ earlier ∈ front, earlier.commits = false
  committed : entry.commits = true → ∃ result mutation durable account directive,
    entry.call = .journalPersisted result ∧ result.applied = true ∧
    outstanding front = some mutation ∧
    decodeDurableRecord codec mutation.replacement = .ok durable ∧
    entry.directive = some directive ∧ durable.HandsOn directive ∧
    entry.before.freshAccount = some account ∧ durable.Answers first account
  identical : ∀ mutation ∈ entry.persist, ∃ durable,
    decodeDurableRecord codec mutation.replacement = .ok durable ∧
    ∀ earlier ∈ front, ∀ other ∈ earlier.persist, ∃ written,
      decodeDurableRecord codec other.replacement = .ok written ∧ durable.SameMessage written
  versioned : ∀ mutation ∈ entry.persist,
    mutation.expectedVersion = (slotVersions front).settled ∧
    mutation.replacement.version = (slotVersions front).settled.elim 1 (· + 1)
  ended : entry.before.stage.isTerminal = true →
    entry.after = { entry.before with journalVersion := entry.after.journalVersion } ∧
      ∀ directive ∈ entry.directive, directive = .finished

end Law

section Entries

variable {entries : List (SendEntry codec)} {entry : SendEntry codec}

@[simp] theorem outstanding_append :
    outstanding (entries ++ [entry]) = entry.persist := by
  rw [outstanding, List.getLast?_append, List.getLast?_singleton]
  rfl

@[simp] theorem slotVersions_append :
    slotVersions (entries ++ [entry]) = (slotVersions entries).next entry := by
  rw [slotVersions, List.foldl_append]
  rfl

variable {workflow next : SendWorkflow} {call : SendCall codec}

/-- A call that asks to persist the workflow it leaves. -/
theorem persist_persisting {mutation : JournalCompareExchange codec.Payload} :
    mutation ∈ (⟨workflow, call, next.persisting, next⟩ : SendEntry codec).persist ↔
      next.persistMutation codec = .ok mutation := by
  unfold SendEntry.persist SendEntry.directive SendWorkflow.persisting
  cases next.persistMutation codec with
  | error error => simp [Except.map]
  | ok found => simp [Except.map, eq_comm]

theorem commits_persisting :
    (⟨workflow, call, next.persisting, next⟩ : SendEntry codec).commits = false := by
  unfold SendEntry.commits SendEntry.directive SendWorkflow.persisting
  cases next.persistMutation codec <;> rfl

/-- A call that is neither of the two answers to the journal offers what it asks to write. -/
theorem next_persisting (versions : SlotVersions) (workflow next : SendWorkflow)
    (other : (∀ record, call ≠ .journalLoaded record) ∧ ∀ result, call ≠ .journalPersisted result) :
    (versions.next (⟨workflow, call, next.persisting, next⟩ : SendEntry codec)).settled =
        versions.settled ∧
      ∀ mutation, next.persistMutation codec = .ok mutation →
        (versions.next (⟨workflow, call, next.persisting, next⟩ : SendEntry codec)).offered =
          some mutation.replacement.version := by
  unfold SlotVersions.next SendWorkflow.persisting
  cases made : next.persistMutation codec with
  | error error =>
    cases call with
    | journalLoaded record => exact absurd rfl (other.1 record)
    | journalPersisted result => exact absurd rfl (other.2 result)
    | _ => exact ⟨rfl, nofun⟩
  | ok mutation =>
    cases call with
    | journalLoaded record => exact absurd rfl (other.1 record)
    | journalPersisted result => exact absurd rfl (other.2 result)
    | _ => exact ⟨rfl, by rintro _ ⟨⟩; rfl⟩

end Entries

section Tracks

variable {entry : SendEntry codec} {mutation : JournalCompareExchange codec.Payload}
  {call : SendCall codec} {outcome : SendOutcome codec}

/-- How the calls so far and the state of the workflow belong together. -/
structure Tracks (first : SendWorkflow) (entries : List (SendEntry codec))
    (workflow : SendWorkflow) : Prop extends first.Sound workflow where
  asked : ∀ mutation ∈ outstanding entries, workflow.persistMutation codec = .ok mutation ∧
    workflow.stage ≠ .handedOff ∧
    (slotVersions entries).offered = some mutation.replacement.version
  settled : workflow.stage.isTerminal = false →
    (slotVersions entries).settled = workflow.journalVersion
  uncommitted : workflow.stage.isEarly = true ∨ workflow.stage = .persistingPrepared →
    ∀ entry ∈ entries, entry.commits = false
  written : ∀ entry ∈ entries, ∀ mutation ∈ entry.persist, ∃ prepared,
    workflow.prepared = some prepared ∧ ∃ stage providerReference diagnostic,
      decodeDurableRecord codec mutation.replacement =
        .ok (prepared.durable stage providerReference diagnostic)

variable {first workflow next : SendWorkflow} {entries : List (SendEntry codec)}

theorem Tracks.start (fresh : first.stage = .validating) (unprepared : first.prepared = none)
    (unversioned : first.journalVersion = none) :
    Tracks first ([] : List (SendEntry codec)) first where
  toSound := .start fresh unprepared
  asked _ none := nomatch none
  settled _ := unversioned.symm
  uncommitted _ _ member := nomatch member
  written _ member := nomatch member

/-- A call that changes nothing and asks for nothing. -/
theorem Tracks.quiet (tracks : Tracks first entries workflow) (silent : entry.persist = none)
    (modest : entry.commits = false)
    (same : (slotVersions entries).next entry = slotVersions entries) :
    Tracks first (entries ++ [entry]) workflow where
  toSound := tracks.toSound
  asked mutation asked := by
    rw [outstanding_append, silent] at asked
    cases asked
  settled := by
    rw [slotVersions_append, same]
    exact tracks.settled
  uncommitted stage other member := by
    rcases List.mem_append.mp member with earlier | now
    · exact tracks.uncommitted stage other earlier
    · rw [List.mem_singleton.mp now]
      exact modest
  written other member mutation asked := by
    rcases List.mem_append.mp member with earlier | now
    · exact tracks.written other earlier mutation asked
    · rw [List.mem_singleton.mp now, silent] at asked
      cases asked

/-- A call that leads from one early stage to another. -/
theorem Tracks.advance (tracks : Tracks first entries workflow) {stage : SendStage}
    {account : Option FreshSendAccount} {version : Option Nat}
    (origin : workflow.stage.isEarly = true) (target : stage.isEarly = true)
    (silent : entry.persist = none) (modest : entry.commits = false)
    (settled : ((slotVersions entries).next entry).settled = version) :
    Tracks first (entries ++ [entry])
      { workflow with stage, freshAccount := account, journalVersion := version } where
  toSound := tracks.toSound.advance origin target
  asked mutation asked := by
    rw [outstanding_append, silent] at asked
    cases asked
  settled _ := by
    rw [slotVersions_append]
    exact settled
  uncommitted _ other member := by
    rcases List.mem_append.mp member with earlier | now
    · exact tracks.uncommitted (.inl origin) other earlier
    · rw [List.mem_singleton.mp now]
      exact modest
  written other member mutation asked := by
    rcases List.mem_append.mp member with earlier | now
    · exact tracks.written other earlier mutation asked
    · rw [List.mem_singleton.mp now, silent] at asked
      cases asked

theorem durableStage_ne_confirmed (unconfirmed : workflow.stage ≠ .confirmed) :
    workflow.durableStage ≠ .confirmed := by
  unfold SendWorkflow.durableStage
  split
  · nofun
  · nofun
  · exact unconfirmed

/-- A write that was asked for stores a record of the prepared message. -/
theorem SendWorkflow.Sound.stores (sound : first.Sound workflow)
    (asked : workflow.persistMutation codec = .ok mutation) :
    ∃ prepared, workflow.prepared = some prepared ∧ mutation.Stores workflow.journalVersion
      (prepared.durable workflow.durableStage workflow.providerReference
        workflow.diagnostic) := by
  cases known : workflow.prepared with
  | none =>
    rw [SendWorkflow.persistMutation, SendWorkflow.journalRecord, SendWorkflow.preparedRef,
      known] at asked
    cases asked
  | some prepared =>
    obtain ⟨account, -, accepted⟩ := sound.matched prepared known
    exact ⟨prepared, rfl, SendWorkflow.persistMutation_ok known
      (SendWorkflow.preparedMatches_eq accepted).1
      (durableStage_ne_confirmed sound.unconfirmed) asked⟩

/-- The transfer is prepared and its first write is asked for. -/
theorem Tracks.prepare (tracks : Tracks first entries workflow) {prepared : PreparedTransfer}
    (origin : workflow.stage = .preparing) (sound : first.Sound next)
    (next_eq : next = { workflow with prepared := some prepared, stage := .persistingPrepared }) :
    Tracks first
      (entries ++ [⟨workflow, .transferPrepared prepared, next.persisting, next⟩]) next := by
  have early : workflow.stage.isEarly = true := by rw [origin]; rfl
  have other : (∀ record, (.transferPrepared prepared : SendCall codec) ≠ .journalLoaded record) ∧
      ∀ result, (.transferPrepared prepared : SendCall codec) ≠ .journalPersisted result :=
    ⟨nofun, nofun⟩
  obtain ⟨kept, offered⟩ := next_persisting (slotVersions entries) workflow next other
  refine ⟨sound, ?_, ?_, ?_, ?_⟩
  · intro mutation asked
    rw [outstanding_append] at asked
    have made := persist_persisting.mp asked
    rw [slotVersions_append]
    exact ⟨made, by rw [next_eq]; nofun, offered mutation made⟩
  · intro _
    rw [slotVersions_append, kept, next_eq]
    exact tracks.settled (by rw [origin]; rfl)
  · intro _ entry member
    rcases List.mem_append.mp member with earlier | now
    · exact tracks.uncommitted (.inl early) entry earlier
    · rw [List.mem_singleton.mp now]
      exact commits_persisting
  · intro entry member mutation asked
    rcases List.mem_append.mp member with earlier | now
    · obtain ⟨_, known, -⟩ := tracks.written entry earlier mutation asked
      rw [tracks.early early] at known
      cases known
    · rw [List.mem_singleton.mp now] at asked
      obtain ⟨prepared, known, stores⟩ := sound.stores (persist_persisting.mp asked)
      exact ⟨prepared, known, _, _, _, stores.decoded⟩

/-- A call that leads on from where nothing is early any more. -/
theorem Tracks.later (tracks : Tracks first entries workflow) (sound : first.Sound next)
    (same : next.prepared = workflow.prepared)
    (target : next.stage.isEarly = false ∧ next.stage ≠ .persistingPrepared)
    (asked : ∀ mutation ∈ entry.persist, next.persistMutation codec = .ok mutation ∧
      next.stage ≠ .handedOff ∧
      ((slotVersions entries).next entry).offered = some mutation.replacement.version)
    (settled : next.stage.isTerminal = false →
      ((slotVersions entries).next entry).settled = next.journalVersion) :
    Tracks first (entries ++ [entry]) next where
  toSound := sound
  asked := by
    rw [outstanding_append, slotVersions_append]
    exact asked
  settled := by
    rw [slotVersions_append]
    exact settled
  uncommitted stage := by
    rcases stage with isEarly | persisting
    · rw [target.1] at isEarly
      cases isEarly
    · exact absurd persisting target.2
  written other member mutation written := by
    rcases List.mem_append.mp member with earlier | now
    · rw [same]
      exact tracks.written other earlier mutation written
    · rw [List.mem_singleton.mp now] at written
      obtain ⟨prepared, known, stores⟩ := sound.stores (asked mutation written).1
      exact ⟨prepared, known, _, _, _, stores.decoded⟩

/-- A call that notes something and asks to persist it. -/
theorem Tracks.note (tracks : Tracks first entries workflow)
    (other : (∀ record, call ≠ .journalLoaded record) ∧ ∀ result, call ≠ .journalPersisted result)
    (sound : first.Sound next) (same : next.prepared = workflow.prepared)
    (target : next.stage.isEarly = false ∧ next.stage ≠ .persistingPrepared)
    (ended : next.stage.isTerminal = true) (kept : next.stage ≠ .handedOff) :
    Tracks first (entries ++ [⟨workflow, call, next.persisting, next⟩]) next := by
  obtain ⟨-, offered⟩ := next_persisting (slotVersions entries) workflow next other
  refine tracks.later sound same target ?_ ?_
  · intro mutation asked
    have made := persist_persisting.mp asked
    exact ⟨made, kept, offered mutation made⟩
  · intro running
    rw [ended] at running
    cases running

theorem persistMutation_version (made : workflow.persistMutation codec = .ok mutation) :
    mutation.expectedVersion = workflow.journalVersion ∧
      nextJournalVersion workflow.journalVersion = .ok mutation.replacement.version := by
  rw [SendWorkflow.persistMutation] at made
  obtain ⟨record, -, made⟩ := except_bind_eq_ok.mp made
  obtain ⟨version, versioned, made⟩ := except_bind_eq_ok.mp made
  obtain ⟨payload, -, made⟩ := except_bind_eq_ok.mp made
  obtain rfl := Except.ok.inj made
  exact ⟨rfl, versioned⟩

/-- The answer to a write. -/
theorem Tracks.answer (tracks : Tracks first entries workflow)
    {result : JournalCompareExchangeResult codec.Payload} {stage : SendStage} {version : Nat}
    (permitted : Permitted entries workflow (.journalPersisted result))
    (applied : result.applied = true)
    (versioned : nextJournalVersion workflow.journalVersion = .ok version)
    (issues : workflow.Issues stage outcome)
    (sound : first.Sound { workflow with journalVersion := some version, stage }) :
    Tracks first (entries ++ [⟨workflow, .journalPersisted result, outcome,
        { workflow with journalVersion := some version, stage }⟩])
      { workflow with journalVersion := some version, stage } := by
  cases issues with
  | submit prepared known origin external =>
    refine tracks.later sound rfl ⟨rfl, nofun⟩ nofun fun _ => ?_
    rcases permitted with some | none
    · obtain ⟨mutation, asked⟩ := Option.ne_none_iff_exists'.mp some
      obtain ⟨made, -, offered⟩ := tracks.asked mutation asked
      have same := (persistMutation_version made).2
      rw [versioned] at same
      simp [SlotVersions.next, applied, offered, Except.ok.inj same]
    · rw [known] at none
      cases none
  | handOff prepared known origin => exact tracks.later sound rfl ⟨rfl, nofun⟩ nofun nofun
  | unprepared _ error absent origin =>
    refine absurd absent (tracks.prepared_ne_none ?_)
    rcases origin with origin | origin
    · rw [origin]
      exact ⟨rfl, nofun, nofun⟩
    · rw [origin]
      exact ⟨rfl, nofun, nofun⟩
  | finished ended =>
    have facts : (workflow.stage.isEarly = false ∧ workflow.stage ≠ .persistingPrepared) ∧
        workflow.stage.isTerminal = true := by
      cases stage : workflow.stage <;> simp_all [SendStage.isEarly, SendStage.isTerminal]
    refine tracks.later sound rfl facts.1 (by rintro _ ⟨⟩) fun running => ?_
    rw [facts.2] at running
    cases running

theorem readSecretDirective_cases (workflow : SendWorkflow) :
    (∃ read, workflow.readSecretDirective codec = .ok (.readProtectedSecret read)) ∨
      ∃ error, workflow.readSecretDirective codec = .error error := by
  unfold SendWorkflow.readSecretDirective
  cases workflow.localSecretRef with
  | none => exact .inr ⟨_, rfl⟩
  | some secretRef => exact .inl ⟨_, rfl⟩

/-- Every call keeps the calls and the state together. -/
theorem Tracks.step (tracks : Tracks first entries workflow)
    (permitted : Permitted entries workflow call) (effect : workflow.Effect call outcome next) :
    Tracks first (entries ++ [⟨workflow, call, outcome, next⟩]) next := by
  have sound := tracks.toSound.step effect
  cases effect with
  | refused call error =>
    refine tracks.quiet rfl rfl ?_
    cases call <;> rfl
  | begun origin =>
    have settled := tracks.settled (by rw [origin]; rfl)
    exact tracks.advance (by rw [origin]; rfl) rfl rfl rfl settled
  | loaded record origin => exact tracks.advance (by rw [origin]; rfl) rfl rfl rfl rfl
  | account account origin =>
    have settled := tracks.settled (by rw [origin]; rfl)
    have early : workflow.stage.isEarly = true := by rw [origin]; rfl
    rcases readSecretDirective_cases { workflow with
      freshAccount := some account, stage := .authorizing } with ⟨read, asked⟩ | ⟨error, failed⟩
    · rw [asked]
      exact tracks.advance early rfl rfl rfl settled
    · rw [failed]
      exact tracks.advance early rfl rfl rfl settled
  | preparedAccount account origin =>
    have settled := tracks.settled (by rw [origin]; rfl)
    exact tracks.advance (by rw [origin]; rfl) rfl rfl rfl settled
  | authorized account origin =>
    have settled := tracks.settled (by rw [origin]; rfl)
    exact tracks.advance (by rw [origin]; rfl) rfl rfl rfl settled
  | prepared prepared account origin loaded accepted => exact tracks.prepare origin sound rfl
  | persisted result stage version _ applied versioned issues =>
    exact tracks.answer permitted applied versioned issues sound
  | conflicted result refused running =>
    exact tracks.later sound rfl ⟨rfl, nofun⟩ nofun nofun
  | started origin =>
    have settled := tracks.settled (by rw [origin]; rfl)
    exact tracks.later sound rfl ⟨rfl, nofun⟩ nofun (fun _ => settled)
  | noted call next origin noted =>
    rcases noted with ⟨_, rfl, rfl⟩ | ⟨_, rfl, rfl⟩ | ⟨_, rfl, rfl⟩ <;>
      exact tracks.note ⟨nofun, nofun⟩ sound rfl ⟨rfl, nofun⟩ rfl nofun
  | settled ended => exact tracks.quiet rfl rfl rfl
  | dropped running absent => exact tracks.later sound rfl ⟨rfl, nofun⟩ nofun nofun
  | cancelled running present =>
    exact tracks.note ⟨nofun, nofun⟩ sound rfl ⟨rfl, nofun⟩ rfl nofun

/-- A call that the table does not admit changes nothing. -/
theorem SendWorkflow.Effect.refused_of_none (effect : workflow.Effect call outcome next)
    (refused : workflow.stage.transition (call.event workflow) = none) : next = workflow := by
  cases effect with
  | refused | settled => rfl
  | begun origin | loaded _ origin | account _ origin | preparedAccount _ origin
  | authorized _ origin | prepared _ _ origin | started origin =>
    rw [origin] at refused
    cases refused
  | persisted result stage version _ applied versioned issues =>
    rw [SendCall.event, if_pos applied, SendWorkflow.persistedEvent] at refused
    cases issues with
    | submit prepared known origin external =>
      rw [origin, external] at refused
      cases refused
    | handOff prepared known origin =>
      rcases origin with ⟨origin, internal⟩ | origin
      · rw [origin, internal] at refused
        cases refused
      · rw [origin] at refused
        cases refused
    | unprepared _ _ _ origin =>
      rcases origin with origin | origin
      · rw [origin] at refused
        cases kind : workflow.kind <;> rw [kind] at refused <;> cases refused
      · rw [origin] at refused
        cases refused
    | finished ended =>
      cases stage : workflow.stage <;> simp_all [SendStage.transition]
  | conflicted result lost running =>
    rw [SendCall.event, lost] at refused
    cases stage : workflow.stage <;> simp_all [SendStage.transition, SendStage.isTerminal]
  | noted call next origin noted =>
    rcases noted with ⟨_, rfl, rfl⟩ | ⟨_, rfl, rfl⟩ | ⟨_, rfl, rfl⟩ <;>
    · rw [origin] at refused
      cases refused
  | dropped running absent | cancelled running present =>
    cases stage : workflow.stage <;> simp_all [SendCall.event, SendStage.transition]

/-- A message is handed on by the answer to its first write. -/
theorem Tracks.commits (tracks : Tracks first entries workflow)
    (permitted : Permitted entries workflow call) (effect : workflow.Effect call outcome next)
    (commits : (⟨workflow, call, outcome, next⟩ : SendEntry codec).commits = true) :
    ∃ result mutation prepared, call = .journalPersisted result ∧ result.applied = true ∧
      outstanding entries = some mutation ∧ workflow.stage = .persistingPrepared ∧
      workflow.prepared = some prepared ∧
      (workflow.kind = .external ∧
          outcome = .ok (some (.submit prepared.signedBoc prepared.messageHash)) ∨
        workflow.kind = .internal ∧
          outcome = .ok (some (.handOff prepared.signedBoc prepared.validUntil))) := by
  cases effect with
  | persisted result stage version _ applied versioned issues =>
    have answered : workflow.prepared ≠ none →
        ∃ mutation, outstanding entries = some mutation := by
      intro present
      rcases permitted with some | none
      · exact Option.ne_none_iff_exists'.mp some
      · exact absurd none present
    cases issues with
    | submit prepared known origin external =>
      obtain ⟨mutation, asked⟩ := answered (by rw [known]; exact Option.some_ne_none _)
      exact ⟨result, mutation, prepared, rfl, applied, asked, origin, known,
        .inl ⟨external, rfl⟩⟩
    | handOff prepared known origin =>
      obtain ⟨mutation, asked⟩ := answered (by rw [known]; exact Option.some_ne_none _)
      rcases origin with ⟨origin, internal⟩ | origin
      · exact ⟨result, mutation, prepared, rfl, applied, asked, origin, known,
          .inr ⟨internal, rfl⟩⟩
      · exact absurd origin (tracks.asked mutation asked).2.1
    | unprepared => cases commits
    | finished => cases commits
  | account account origin =>
    rcases readSecretDirective_cases { workflow with
      freshAccount := some account, stage := .authorizing } with ⟨read, asked⟩ | ⟨error, failed⟩
    · rw [asked] at commits
      cases commits
    · rw [failed] at commits
      cases commits
  | prepared | noted | cancelled =>
    rw [commits_persisting] at commits
    cases commits
  | _ => cases commits

/-- A write is asked for before the workflow has ended, and by a call that leaves the version. -/
theorem SendWorkflow.Effect.persist (effect : workflow.Effect call outcome next)
    (asked : mutation ∈ (⟨workflow, call, outcome, next⟩ : SendEntry codec).persist) :
    workflow.stage.isTerminal = false ∧ next.journalVersion = workflow.journalVersion := by
  cases effect with
  | prepared prepared account origin loaded accepted => exact ⟨by rw [origin]; rfl, rfl⟩
  | noted call next origin noted =>
    refine ⟨by rw [origin]; rfl, ?_⟩
    rcases noted with ⟨_, -, rfl⟩ | ⟨_, -, rfl⟩ | ⟨_, -, rfl⟩ <;> rfl
  | cancelled running present => exact ⟨running, rfl⟩
  | persisted result stage version _ applied versioned issues => cases issues <;> cases asked
  | account account origin =>
    rcases readSecretDirective_cases { workflow with
      freshAccount := some account, stage := .authorizing } with ⟨read, found⟩ | ⟨error, failed⟩
    · rw [found] at asked
      cases asked
    · rw [failed] at asked
      cases asked
  | _ => cases asked

/-- Once the workflow has ended, calls change at most its version. -/
theorem Tracks.ended (tracks : Tracks first entries workflow)
    (permitted : Permitted entries workflow call) (effect : workflow.Effect call outcome next)
    (ended : workflow.stage.isTerminal = true) :
    next = { workflow with journalVersion := next.journalVersion } ∧
      ∀ directive ∈ (⟨workflow, call, outcome, next⟩ : SendEntry codec).directive,
        directive = .finished := by
  cases effect with
  | refused => exact ⟨rfl, nofun⟩
  | settled => exact ⟨rfl, by rintro _ ⟨⟩; rfl⟩
  | persisted result stage version _ applied versioned issues =>
    cases issues with
    | finished => exact ⟨rfl, by rintro _ ⟨⟩; rfl⟩
    | submit prepared known origin external =>
      rw [origin] at ended
      cases ended
    | handOff prepared known origin =>
      rcases origin with ⟨origin, -⟩ | origin
      · rw [origin] at ended
        cases ended
      · -- the answer that led to this stage was the last one
        rcases permitted with some | none
        · obtain ⟨mutation, asked⟩ := Option.ne_none_iff_exists'.mp some
          exact absurd origin (tracks.asked mutation asked).2.1
        · rw [known] at none
          cases none
    | unprepared _ _ absent origin =>
      refine absurd absent (tracks.prepared_ne_none ?_)
      rcases origin with origin | origin <;> rw [origin] <;> exact ⟨rfl, nofun, nofun⟩
  | conflicted _ _ running | dropped running | cancelled running =>
    rw [running] at ended
    cases ended
  | begun origin | loaded _ origin | account _ origin | preparedAccount _ origin
  | authorized _ origin | prepared _ _ origin | started origin | noted _ _ origin =>
    rw [origin] at ended
    cases ended

/-- What was accepted as prepared is what was asked for. -/
theorem answers_of_matches {account : FreshSendAccount} {prepared : PreparedTransfer}
    (same : workflow.recordId = first.recordId ∧ workflow.source = first.source ∧
      workflow.request = first.request ∧ workflow.kind = first.kind)
    (accepted : workflow.preparedMatches account prepared = true) (stage : SendStage)
    (providerReference diagnostic : Option String) :
    (prepared.durable stage providerReference diagnostic).Answers first account := by
  simp only [SendWorkflow.preparedMatches, Bool.and_eq_true, beq_iff_eq] at accepted
  obtain ⟨⟨⟨⟨⟨⟨⟨operationId, recordId⟩, source⟩, -⟩, messages⟩, expiration⟩, seqno⟩, stateInit⟩ :=
    accepted
  obtain ⟨sameId, sameSource, sameRequest, -⟩ := same
  rw [sameRequest] at operationId messages expiration
  refine ⟨operationId, recordId.trans sameId, source.trans sameSource, messages, ?_, seqno,
    stateInit⟩
  intro unixTimestamp exact'
  rw [exact'] at expiration
  exact eq_of_beq expiration

theorem nextJournalVersion_eq {current : Option Nat} {version : Nat}
    (ok : nextJournalVersion current = .ok version) : version = current.elim 1 (· + 1) := by
  cases current with
  | none => exact (Except.ok.inj ok).symm
  | some previous => exact (nextJournalVersion_ok ok).2 previous rfl

/-- The law holds of the next call. -/
theorem Tracks.law (tracks : Tracks first entries workflow)
    (permitted : Permitted entries workflow call) (effect : workflow.Effect call outcome next) :
    SendLaw first entries ⟨workflow, call, outcome, next⟩ := by
  have after := tracks.step permitted effect
  refine ⟨effect.refused_of_none, ?_, ?_, ?_, ?_, tracks.ended permitted effect⟩
  · intro commits
    obtain ⟨_, _, _, _, _, _, origin, -⟩ := tracks.commits permitted effect commits
    exact tracks.uncommitted (.inr origin)
  · intro commits
    obtain ⟨result, mutation, prepared, rfl, applied, asked, origin, known, handed⟩ :=
      tracks.commits permitted effect commits
    obtain ⟨account, loaded, accepted⟩ := tracks.matched prepared known
    have made := (tracks.asked mutation asked).1
    obtain ⟨same, again, stored⟩ := tracks.stores made
    obtain rfl := Option.some.inj (known.symm.trans again)
    have kind := (SendWorkflow.preparedMatches_eq accepted).2
    have committed : workflow.durableStage =
        if workflow.kind = .external then .readyToSubmit else .handedOff := by
      rw [SendWorkflow.durableStage, origin]
      cases workflow.kind <;> rfl
    rcases handed with ⟨external, rfl⟩ | ⟨internal, rfl⟩
    · rw [external, if_pos rfl] at committed
      exact ⟨result, mutation, _, account, _, rfl, applied, asked, stored.decoded, rfl,
        .inl ⟨rfl, committed, kind.trans external⟩, loaded,
        answers_of_matches tracks.fixed accepted _ _ _⟩
    · rw [internal, if_neg nofun] at committed
      exact ⟨result, mutation, _, account, _, rfl, applied, asked, stored.decoded, rfl,
        .inr ⟨rfl, committed, kind.trans internal⟩, loaded,
        answers_of_matches tracks.fixed accepted _ _ _⟩
  · intro mutation asked
    obtain ⟨prepared, known, _, _, _, decoded⟩ :=
      after.written _ (List.mem_append_right _ (List.mem_singleton_self _)) mutation asked
    refine ⟨_, decoded, ?_⟩
    intro earlier member other written
    obtain ⟨same, again, _, _, _, others⟩ :=
      after.written earlier (List.mem_append_left _ member) other written
    obtain rfl := Option.some.inj (known.symm.trans again)
    exact ⟨_, others, ⟨rfl, rfl, rfl, rfl, rfl, rfl⟩⟩
  · intro mutation asked
    obtain ⟨running, same⟩ := effect.persist asked
    have made := (after.asked mutation (outstanding_append.trans asked)).1
    obtain ⟨expected, versioned⟩ := persistMutation_version made
    rw [same] at expected versioned
    rw [tracks.settled running]
    exact ⟨expected, nextJournalVersion_eq versioned⟩

theorem SendRun.tracks (run : SendRun first entries workflow) (fresh : first.stage = .validating)
    (unprepared : first.prepared = none) (unversioned : first.journalVersion = none) :
    Tracks first entries workflow := by
  induction run with
  | start => exact .start fresh unprepared unversioned
  | call call run permitted ih => exact ih.step permitted (SendWorkflow.region_effect call)

end Tracks

/-- Every call of every run of a new workflow obeys the law. -/
theorem sendReducer_lawful {recordId : NonEmptyString} {source : TonAddressString}
    {request : SendRequest} {localSecretRef : Option ProtectedSecretRef} {kind : SignedMessageKind}
    {entries front : List (SendEntry codec)} {workflow : SendWorkflow} {entry : SendEntry codec}
    (run : SendRun (.newWithKind recordId source request localSecretRef kind) entries workflow)
    (called : front ++ [entry] <+: entries) :
    SendLaw (.newWithKind recordId source request localSecretRef kind) front entry := by
  induction run with
  | start => exact absurd (List.prefix_nil.mp called) (by simp)
  | call call run permitted ih =>
    rcases List.prefix_concat_iff.mp called with whole | earlier
    · obtain ⟨rfl, last⟩ := List.append_inj' whole rfl
      rw [List.singleton_inj.mp last]
      exact (run.tracks rfl rfl rfl).law permitted (SendWorkflow.region_effect call)
    · exact ih earlier

section Sample

/-- A workflow for a message that its caller signed. -/
def sampleWorkflow : SendWorkflow :=
  .newPreparedExternal plainConfig.recordId plainConfig.address ⟨"send", by decide⟩ false 10

def samplePrepared : PreparedTransfer where
  operationId := ⟨"send", by decide⟩
  recordId := plainConfig.recordId
  source := plainConfig.address
  kind := .external
  messages := []
  seqno := 3
  needsStateInit := false
  validUntil := 10
  signedBoc := ⟨[1]⟩
  messageHash := ⟨"hash"⟩

/-- The host reports the write as applied. -/
def sampleAnswer : SendCall plainPlatform.codec := .journalPersisted ⟨true, none⟩

/-- The calls up to the write of the signed message. -/
theorem sampleRun : ∃ (entries : List (SendEntry plainPlatform.codec)) (workflow : SendWorkflow),
    SendRun sampleWorkflow entries workflow ∧ outstanding entries ≠ none ∧
      (SendEntry.of workflow sampleAnswer).commits = true := by
  refine ⟨_, _, .call (.transferPrepared samplePrepared)
    (.call (.preparedAccountLoaded ⟨.active, 3⟩)
      (.call (.journalLoaded none) (.call .begin .start rfl) rfl) rfl) rfl, ?_, rfl⟩
  nofun

/-- A signed message is submitted, and the law says after which write. -/
theorem sendReducer_lawful_submitted :
    ∃ (entries : List (SendEntry plainPlatform.codec)) (entry : SendEntry plainPlatform.codec),
      entry.commits = true ∧ SendLaw sampleWorkflow entries entry := by
  obtain ⟨entries, workflow, run, asked, commits⟩ := sampleRun
  exact ⟨entries, _, commits, sendReducer_lawful
    (.call sampleAnswer run (.inl asked)) List.prefix_rfl⟩

end Sample

end WalletEngine
