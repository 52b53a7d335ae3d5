import WalletEngine.Contract.CustodyLoads
import WalletEngine.Contract.Slots
import WalletEngine.Host.Memory

/-! # Snapshots and their revisions

Everything a client shows changes together with its revision, and a revision wakes the waiters
it passes. After the shutdown nothing that is shown changes any more. -/

namespace WalletEngine

variable {P : Platform} {log : Log P} {call : PublicCall} {family : OperationFamily}
  {generation : Nat} {before after : State}

section Steps

/-- What a client shows. The rows of the history, its end and the ends of the lists are part of
the snapshot that a reader gets. -/
structure Published where
  config : WalletClientConfig
  snapshot : WalletSnapshot
  activity : List ActivityRecord
  activityCursor : Option (Nat × Base64Hash)
  activityHasMore : Bool
  nftsHasMore : Bool

def State.published (state : State) : Published where
  config := state.config
  snapshot := state.snapshot
  activity := state.activity
  activityCursor := state.activityCursor
  activityHasMore := state.activityHasMore
  nftsHasMore := state.nftsHasMore

/-- What a lock region does to what is shown and to those who wait for it. -/
inductive RevisionStep (before after : State) : Prop
  | quiet (published : after.published = before.published) (waiters : after.waiters = before.waiters)
      (shutdown : after.shutdown = before.shutdown)
  | waits (value : Nat) (current : before.snapshot.revision ≤ value)
      (running : before.shutdown = false) (published : after.published = before.published)
      (waiters : after.waiters = before.waiters ++ [value])
      (shutdown : after.shutdown = before.shutdown)
  | publishes (change : State) (changed : after = change.revised)
      (revision : change.snapshot.revision = before.snapshot.revision)
      (waiters : change.waiters = before.waiters) (shutdown : change.shutdown = before.shutdown)
      (active : before.shutdown = false ∨ ∃ family, (before.slot family).isSome = true)
  | stops (running : before.shutdown = false) (shutdown : after.shutdown = true)
      (waiters : after.waiters = []) (slots : ∀ family, after.slot family = none)
      (published : after.published = before.published ∨
        (before.snapshot.revision + 1 < u64Bound →
          after.snapshot.revision = before.snapshot.revision + 1))

theorem releaseAll_published (codec : JournalCodec) (state : State)
    (idle : state.hasActiveWork = false) :
    (state.releaseAll codec).published = state.published := by
  simp only [State.hasActiveWork, Bool.or_eq_false_iff, Option.isSome_eq_false_iff,
    Option.isNone_iff_eq_none] at idle
  obtain ⟨⟨⟨⟨⟨⟨refresh, page⟩, nfts⟩, nftPage⟩, preview⟩, send⟩, resolution⟩ := idle
  simp [State.releaseAll, State.published, refresh, page, nfts, nftPage, send]

theorem ClientEffect.revisionStep (effect : ClientEffect call before after) :
    RevisionStep before after := by
  cases effect with
  | allocate | countSend | countResolution | countPreview | reservePreview | trackPreview
  | releasePreview | dropRefresh | disarm | close => exact .quiet rfl rfl rfl
  | wait value running current => exact .waits value current running.2 rfl rfl rfl
  | closeAndWait running =>
    exact .waits before.snapshot.revision le_rfl running rfl rfl rfl
  | cancelRefresh generation ids active =>
    exact .publishes _ rfl rfl rfl rfl (.inr ⟨.refresh, by rw [State.slot, active]; rfl⟩)
  | cancelPagination active => exact .publishes _ rfl rfl rfl rfl (.inr ⟨.pagination, active⟩)
  | cancelNftRefresh active => exact .publishes _ rfl rfl rfl rfl (.inr ⟨.nftRefresh, active⟩)
  | cancelNftPagination active =>
    exact .publishes _ rfl rfl rfl rfl (.inr ⟨.nftPagination, active⟩)
  | cancelSend asked active workflow snapshot =>
    exact .publishes _ rfl rfl rfl rfl (.inr ⟨.send, active⟩)
  | stop rounds codec asked running released releases final revises =>
    refine .stops running rfl rfl (fun _ => stopped_slot releases revises) ?_
    cases busy : before.hasActiveWork with
    | true =>
      refine .inr fun room => ?_
      rw [busy, if_pos rfl] at revises
      have same : released.snapshot.revision = before.snapshot.revision := by
        rw [releases]
        exact releaseAll_revision _
      rw [← same] at room ⊢
      rw [revises, revised_of_room room]
    | false =>
      refine .inl ?_
      rw [busy, if_neg (by decide), releases] at revises
      rw [revises]
      exact releaseAll_published codec { before with closing := true } busy

theorem OpeningEffect.revisionStep (effect : OpeningEffect before after) :
    RevisionStep before after := by
  cases effect with
  | resolution => exact .quiet rfl rfl rfl
  | send nextId workflow later running vacant =>
    exact .publishes _ rfl rfl rfl rfl (.inl running.2)
  | refresh nextId account activity later running =>
    exact .publishes _ rfl rfl rfl rfl (.inl running.2)
  | pagination nextId id later running alone idle =>
    exact .publishes _ rfl rfl rfl rfl (.inl running.2)
  | nftRefresh nextId id later running =>
    exact .publishes _ rfl rfl rfl rfl (.inl running.2)
  | nftPagination nextId id later running alone idle =>
    exact .publishes _ rfl rfl rfl rfl (.inl running.2)

theorem OwnerEffect.revisionStep (effect : OwnerEffect before family generation after) :
    RevisionStep before after := by
  cases effect with
  | commit | allocate | remember | releaseResolution => exact .quiet rfl rfl rfl
  | publish generation ids active workflow snapshot =>
    exact .publishes _ rfl rfl rfl rfl (.inr ⟨.send, by rw [State.slot, active]; rfl⟩)
  | releaseSend generation ids active workflow snapshot =>
    exact .publishes _ rfl rfl rfl rfl (.inr ⟨.send, by rw [State.slot, active]; rfl⟩)
  | completeResolution generation ids active snapshot =>
    exact .publishes _ rfl rfl rfl rfl (.inr ⟨.resolution, by rw [State.slot, active]; rfl⟩)

theorem TrackEffect.revisionStep {listed tracked : List HttpRequestId}
    (effect : TrackEffect before family generation listed tracked after) :
    RevisionStep before after := by
  cases effect <;> exact .quiet rfl rfl rfl

theorem isSome_of_isCurrent {state : State} (current : state.isCurrent family generation = true) :
    (state.slot family).isSome = true := by
  rw [State.isCurrent, Option.any_eq_true] at current
  obtain ⟨active, found, -⟩ := current
  exact Option.isSome_of_eq_some found

theorem LoadEffect.revisionStep (effect : LoadEffect log before family generation after) :
    RevisionStep before after := by
  have active := isSome_of_isCurrent effect.current
  rcases effect.spares with rfl | ⟨changed, same, spared⟩
  · exact .quiet rfl rfl rfl
  · exact .publishes _ same spared.revision spared.waiters spared.shutdown (.inr ⟨family, active⟩)

theorem Effect.revisionStep (effect : Effect log call before after) :
    RevisionStep before after := by
  cases effect with
  | none settled => exact .quiet rfl rfl rfl
  | client _ free effect => exact effect.revisionStep
  | opening _ free effect untried => exact effect.revisionStep
  | owner _ _ _ owns effect => exact effect.revisionStep
  | start _ _ listed id _ owns effect => exact effect.revisionStep
  | finish _ _ listed id _ unloaded heard effect => exact effect.revisionStep
  | load _ _ _ reserved effect => exact effect.revisionStep

end Steps

section Order

/-- What a later state of a client owes to an earlier one, below exhaustion. -/
structure State.Continues (older newer : State) : Prop where
  revision : older.snapshot.revision ≤ newer.snapshot.revision
  published : older.snapshot.revision = newer.snapshot.revision →
    newer.published = older.published
  waiters : ∀ value ∈ older.waiters, value ∈ newer.waiters ∨ value < newer.snapshot.revision ∨
    newer.shutdown = true
  stopped : older.shutdown = true → newer.shutdown = true ∧ newer.published = older.published

theorem State.Continues.refl (state : State) : state.Continues state :=
  ⟨le_rfl, fun _ => rfl, fun _ => .inl, fun down => ⟨down, rfl⟩⟩

theorem State.Continues.trans {first second third : State} (one : first.Continues second)
    (two : second.Continues third) : first.Continues third := by
  refine ⟨one.revision.trans two.revision, fun same => ?_, fun value stored => ?_, fun down => ?_⟩
  · have lower := one.revision
    have upper := two.revision
    exact (two.published (by omega)).trans (one.published (by omega))
  · rcases one.waiters value stored with kept | passed | down
    · exact two.waiters value kept
    · exact .inr (.inl (passed.trans_le two.revision))
    · exact .inr (.inr (two.stopped down).1)
  · obtain ⟨still, same⟩ := one.stopped down
    exact ⟨(two.stopped still).1, (two.stopped still).2.trans same⟩

/-- A waiter is stored for a revision that has not been passed. After the shutdown there is
none, and no slot is taken. -/
structure State.Listens (state : State) : Prop where
  waiting : ∀ value ∈ state.waiters, state.snapshot.revision ≤ value
  stopped : state.shutdown = true → state.waiters = [] ∧ ∀ family, state.slot family = none

theorem RevisionStep.continues (step : RevisionStep before after) (listens : before.Listens)
    (room : before.snapshot.revision + 1 < u64Bound) : before.Continues after := by
  have same_revision : after.published = before.published →
      after.snapshot.revision = before.snapshot.revision := fun published =>
    congrArg (·.snapshot.revision) published
  cases step with
  | quiet published waiters shutdown =>
    refine ⟨(same_revision published).ge, fun _ => published, fun value stored => .inl ?_,
      fun down => ⟨shutdown.trans down, published⟩⟩
    rw [waiters]
    exact stored
  | waits value current running published waiters shutdown =>
    refine ⟨(same_revision published).ge, fun _ => published, fun value stored => .inl ?_,
      fun down => ⟨shutdown.trans down, published⟩⟩
    rw [waiters]
    exact List.mem_append_left _ stored
  | publishes change changed revision waiters shutdown active =>
    rw [← revision] at room
    rw [revised_of_room room] at changed
    subst changed
    refine ⟨?_, fun same => ?_, fun value stored => ?_, fun down => ?_⟩
    · dsimp only
      omega
    · dsimp only at same
      omega
    · by_cases passed : change.snapshot.revision + 1 ≤ value
      · refine .inl (List.mem_filter.mpr ⟨?_, decide_eq_true passed⟩)
        rw [waiters]
        exact stored
      · exact .inr (.inl (Nat.lt_of_not_le passed))
    · rcases active with running | ⟨family, taken⟩
      · rw [running] at down
        cases down
      · rw [(listens.stopped down).2 family] at taken
        cases taken
  | stops running shutdown waiters slots published =>
    refine ⟨?_, fun same => ?_, fun _ _ => .inr (.inr shutdown), fun down => ?_⟩
    · rcases published with published | revised
      · exact (same_revision published).ge
      · rw [revised room]
        omega
    · rcases published with published | revised
      · exact published
      · rw [revised room] at same
        omega
    · rw [running] at down
      cases down

theorem RevisionStep.waiting (step : RevisionStep before after)
    (waiting : ∀ value ∈ before.waiters, before.snapshot.revision ≤ value) :
    ∀ value ∈ after.waiters, after.snapshot.revision ≤ value := by
  have same_revision : after.published = before.published →
      after.snapshot.revision = before.snapshot.revision := fun published =>
    congrArg (·.snapshot.revision) published
  intro value stored
  cases step with
  | quiet published waiters shutdown =>
    rw [same_revision published]
    exact waiting value (waiters ▸ stored)
  | waits added current running published waiters shutdown =>
    rw [same_revision published]
    rw [waiters] at stored
    rcases List.mem_append.mp stored with earlier | newest
    · exact waiting value earlier
    · rw [List.mem_singleton.mp newest]
      exact current
  | publishes change changed revision waiters shutdown active =>
    by_cases room : change.snapshot.revision + 1 < u64Bound
    · rw [changed, revised_of_room room] at stored ⊢
      exact of_decide_eq_true (List.mem_filter.mp stored).2
    · rw [changed, revised_of_exhausted room] at stored ⊢
      rw [revision]
      exact waiting value (waiters ▸ stored)
  | stops running shutdown waiters slots published =>
    rw [waiters] at stored
    cases stored

/-- Only a shutdown shuts down, and it leaves no slot taken. -/
theorem RevisionStep.shutdown_cases (step : RevisionStep before after) :
    after.shutdown = before.shutdown ∨ ∀ family, after.slot family = none := by
  cases step with
  | quiet _ _ shutdown | waits _ _ _ _ _ shutdown => exact .inl shutdown
  | publishes change changed _ _ shutdown =>
    rw [changed, revised_shutdown]
    exact .inl shutdown
  | stops _ _ _ slots => exact .inr slots

theorem Effect.listens (effect : Effect log call before after) (listens : before.Listens) :
    after.Listens := by
  refine ⟨effect.revisionStep.waiting listens.waiting, fun down => ⟨?_, fun family => ?_⟩⟩
  · cases effect.revisionStep with
    | quiet published waiters shutdown =>
      rw [waiters]
      exact (listens.stopped (shutdown.symm.trans down)).1
    | waits value current running published waiters shutdown =>
      rw [shutdown, running] at down
      cases down
    | publishes change changed revision waiters shutdown active =>
      rw [changed, revised_shutdown, shutdown] at down
      have nobody := (listens.stopped down).1
      rw [← waiters] at nobody
      rw [changed]
      by_cases room : change.snapshot.revision + 1 < u64Bound
      · rw [revised_of_room room]
        dsimp only
        rw [nobody]
        rfl
      · rw [revised_of_exhausted room]
        exact nobody
    | stops running shutdown waiters slots published => exact waiters
  · rcases effect.revisionStep.shutdown_cases with same | emptied
    · rw [same] at down
      have free := (listens.stopped down).2 family
      cases effect.slotStep family with
      | kept _ owner =>
        rw [free] at owner
        exact Option.map_eq_none_iff.mp owner
      | emptied _ owner => exact owner
      | counted _ owner => exact owner.trans free
      | taken ids counted owner =>
        have running := (effect.running_of_counted counted).2
        rw [running] at down
        cases down
    · exact emptied family

end Order

section Runs

variable {host : HostModel P} {allowed : (walletSystem host).View → (walletSystem host).Event → Prop}
  {start view : (walletSystem host).View} {client : Nat}

end Runs

section Plain

end Plain

end WalletEngine
