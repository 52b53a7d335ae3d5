import WalletEngine.Safety.DurableHandoff

/-! # The commit boundary

Once the commit of a send has begun, only the operation of that send gives the
slot up: a cancellation is refused, a shutdown waits, and nothing else can reserve
a slot. A send that was cancelled before this point never stores or submits its
message. -/

namespace WalletEngine

variable {P : Platform}

section Slots

variable {log : Log P} {call : PublicCall} {before after : Tracked} {generation : Nat}

/-- What holds of the tracked state of a client at all times. -/
structure Tracked.Sound (tracked : Tracked) : Prop where
  committed : tracked.committed = true → tracked.send.isSome = true
  resolution : tracked.send.isSome = true → tracked.resolution = none
  live : tracked.send.isSome = true → tracked.shown.phase ≠ .cancelled
  running : tracked.send.isSome = true → tracked.shutdown = false
  bounded : ∀ generation ids, tracked.send = some (generation, ids) →
    generation ≤ tracked.sendGeneration

theorem Tracked.sound_initial (config : WalletClientConfig) :
    (State.initial config).tracked.Sound := by
  constructor <;> simp [State.tracked, State.initial]

theorem StateMove.sound (move : StateMove log call before after) (sound : before.Sound) :
    after.Sound := by
  cases move with
  | untouched => exact sound
  | countSend first idle free =>
    exact { sound with
      bounded := fun _ ids active => (sound.bounded _ ids active).trans (Nat.le_succ _) }
  | reserveSend snapshot first idle free running starts =>
    refine ⟨nofun, fun _ => free, fun _ => ?_, fun _ => running, fun _ _ active => ?_⟩
    · rw [starts]
      nofun
    · cases active
      exact le_rfl
  | trackSend generation ids tracked reserved active =>
    have held : before.send.isSome = true := by rw [active]; rfl
    refine ⟨fun _ => rfl, fun _ => sound.resolution held, fun _ => sound.live held,
      fun _ => sound.running held, fun _ _ same => ?_⟩
    cases same
    exact sound.bounded generation ids active
  | showSend generation ids snapshot reserved active presentable live =>
    exact { sound with live := fun _ => live }
  | beginCommit generation ids reserved active running =>
    exact { sound with committed := fun _ => by rw [active]; rfl }
  | releaseSend generation ids snapshot reserved active presentable =>
    exact ⟨nofun, nofun, nofun, nofun, nofun⟩
  | countResolution idle free => exact { sound with }
  | reserveResolution idle free =>
    have empty : ¬ before.send.isSome = true := by simp [idle]
    exact { sound with resolution := fun held => absurd held empty }
  | trackResolution generation ids tracked active =>
    refine { sound with resolution := fun held => ?_ }
    rw [sound.resolution held] at active
    cases active
  | releaseResolution generation ids snapshot active presentable =>
    have idle : ¬ before.send.isSome = true := fun held => by
      rw [sound.resolution held] at active
      cases active
    exact { sound with
      resolution := fun _ => rfl
      live := fun held => absurd held idle }
  | cancel snapshot asked early presentable => exact ⟨nofun, nofun, nofun, nofun, nofun⟩
  | stop rounds snapshot asked early presentable => exact ⟨nofun, nofun, nofun, nofun, nofun⟩

/-- A committed slot stays committed, unless the operation that reserved it clears it. -/
theorem StateMove.committed (move : StateMove log call before after)
    (held : before.Committed generation) :
    after.Committed generation ∨ ReservedSend log generation ∧ after.send = none := by
  obtain ⟨⟨ids, active⟩, started⟩ := held
  have taken : before.send.isSome = true := by rw [active]; rfl
  cases move with
  | untouched => exact .inl ⟨⟨ids, active⟩, started⟩
  | countSend first idle free => rw [active] at idle; cases idle
  | reserveSend snapshot first idle free running starts => rw [active] at idle; cases idle
  | trackSend other earlier tracked reserved found =>
    obtain ⟨rfl, rfl⟩ := Prod.mk.inj (Option.some.inj (active.symm.trans found))
    exact .inl ⟨⟨tracked, rfl⟩, started⟩
  | showSend other earlier snapshot reserved found presentable live =>
    exact .inl ⟨⟨ids, active⟩, started⟩
  | beginCommit other earlier reserved found running => exact .inl ⟨⟨ids, active⟩, rfl⟩
  | releaseSend other earlier snapshot reserved found presentable =>
    obtain ⟨rfl, rfl⟩ := Prod.mk.inj (Option.some.inj (active.symm.trans found))
    exact .inr ⟨reserved, rfl⟩
  | countResolution idle free => rw [active] at idle; cases idle
  | reserveResolution idle free => rw [active] at idle; cases idle
  | trackResolution other earlier tracked found => exact .inl ⟨⟨ids, active⟩, started⟩
  | releaseResolution other earlier snapshot found presentable =>
    exact .inl ⟨⟨ids, active⟩, started⟩
  | cancel snapshot asked early presentable => exact absurd ⟨taken, started⟩ early
  | stop rounds snapshot asked early presentable => exact absurd ⟨taken, started⟩ early

/-- Where an active generation comes from. -/
theorem StateMove.active (move : StateMove log call before after) {ids : List HttpRequestId}
    (active : after.send = some (generation, ids)) :
    (∃ earlier, before.send = some (generation, earlier)) ∨
      generation = before.sendGeneration + 1 := by
  cases move with
  | reserveSend snapshot first idle free running starts => cases active; exact .inr rfl
  | trackSend other earlier tracked reserved found => cases active; exact .inl ⟨earlier, found⟩
  | releaseSend other earlier snapshot reserved found presentable => cases active
  | cancel snapshot asked early presentable => cases active
  | stop rounds snapshot asked early presentable => cases active
  | _ => exact .inl ⟨ids, active⟩

/-- The commit flag of an active slot is only ever set. -/
theorem StateMove.started (move : StateMove log call before after)
    {ids later : List HttpRequestId} (active : before.send = some (generation, ids))
    (started : before.committed = true) (still : after.send = some (generation, later)) :
    after.committed = true := by
  cases move with
  | reserveSend snapshot first idle free running starts => rw [active] at idle; cases idle
  | beginCommit other earlier reserved found running => rfl
  | releaseSend other earlier snapshot reserved found presentable => cases still
  | cancel snapshot asked early presentable => cases still
  | stop rounds snapshot asked early presentable => cases still
  | _ => exact started

theorem StateMove.sendGeneration_le (move : StateMove log call before after) :
    before.sendGeneration ≤ after.sendGeneration := by
  cases move with
  | countSend first idle free => exact Nat.le_succ _
  | reserveSend snapshot first idle free running starts => exact Nat.le_succ _
  | _ => exact le_rfl

theorem StateMove.shutdown (move : StateMove log call before after)
    (down : before.shutdown = true) : after.shutdown = true := by
  cases move with
  | stop rounds snapshot asked early presentable => rfl
  | _ => exact down

/-- An operation takes at most one generation. -/
theorem StateMove.reserves_once (move : StateMove log call before after)
    (takes : before.sendGeneration < after.sendGeneration) (other : Nat) :
    ¬ ReservedSend log other := by
  cases move with
  | countSend first idle free => exact first other
  | reserveSend snapshot first idle free running starts => exact first other
  | _ => exact absurd takes (lt_irrefl _)

end Slots

section Clients

variable {host : HostModel P}

/-- The lock regions of the clients of a wallet system. -/
abbrev WalletRegion (host : HostModel P) := System.LockRegion (walletSystem host)

/-- The commit of a generation has begun in one of the regions. -/
def Begun (regions : List (WalletRegion host)) (generation : Nat) : Prop :=
  ∃ region ∈ regions, (region.after : State).tracked.Committed generation

/-- The slot of a generation was taken away before its commit began. -/
def Abandoned (regions : List (WalletRegion host)) (generation : Nat) : Prop :=
  ∃ region ∈ regions, (∃ ids, (region.before : State).activeSend = some (generation, ids)) ∧
    (region.before : State).sendCommitStarted = false ∧ (region.after : State).activeSend = none

/-- How the state of a client relates to its lock regions. -/
structure ClientSound (regions : List (WalletRegion host)) (state : State) : Prop where
  sound : state.tracked.Sound
  stopped : ∀ region ∈ regions, (region.after : State).shutdown = true → state.shutdown = true
  seen : ∀ {generation}, Begun regions generation → generation ≤ state.sendGeneration
  begun : ∀ {generation ids}, Begun regions generation →
    state.activeSend = some (generation, ids) → state.sendCommitStarted = true
  abandoned : ∀ {generation}, Abandoned regions generation → generation ≤ state.sendGeneration ∧
    (∀ ids, state.activeSend ≠ some (generation, ids)) ∧ ¬ Begun regions generation

theorem ClientSound.move {log : Log P} {call : PublicCall} {regions : List (WalletRegion host)}
    {routine : Nat} {before after : State} (client : ClientSound regions before)
    (move : StateMove log call before.tracked after.tracked) :
    ClientSound ((⟨routine, before, after⟩ : WalletRegion host) :: regions) after := by
  have sound := move.sound client.sound
  have grows : before.sendGeneration ≤ after.sendGeneration := move.sendGeneration_le
  -- A generation that was taken before is active only if it still is.
  have still : ∀ {generation ids}, generation ≤ before.sendGeneration →
      after.activeSend = some (generation, ids) →
      ∃ earlier, before.activeSend = some (generation, earlier) := by
    intro generation ids old active
    rcases move.active active with same | new
    · exact same
    · change generation = before.sendGeneration + 1 at new
      omega
  refine ⟨sound, ?_, ?_, ?_, ?_⟩
  · intro region member down
    rcases List.mem_cons.mp member with rfl | earlier
    · exact down
    · exact move.shutdown (client.stopped region earlier down)
  · rintro generation ⟨region, member, ⟨ids, active⟩, started⟩
    rcases List.mem_cons.mp member with rfl | earlier
    · exact sound.bounded generation ids active
    · exact (client.seen ⟨region, earlier, ⟨ids, active⟩, started⟩).trans grows
  · rintro generation ids ⟨region, member, committed⟩ active
    rcases List.mem_cons.mp member with rfl | earlier
    · exact committed.2
    · have known : Begun regions generation := ⟨region, earlier, committed⟩
      obtain ⟨held, active'⟩ := still (client.seen known) active
      exact move.started active' (client.begun known active') active
  · rintro generation ⟨region, member, ⟨ids, taken⟩, early, cleared⟩
    rcases List.mem_cons.mp member with rfl | earlier
    · refine ⟨(client.sound.bounded generation ids taken).trans grows, fun later active => ?_, ?_⟩
      · rw [cleared] at active
        cases active
      · rintro ⟨other, member, committed⟩
        rcases List.mem_cons.mp member with rfl | older
        · obtain ⟨⟨later, active⟩, _⟩ := committed
          change after.activeSend = _ at active
          rw [cleared] at active
          cases active
        · have started := client.begun ⟨other, older, committed⟩ taken
          rw [early] at started
          cases started
    · obtain ⟨old, gone, unbegun⟩ :=
        client.abandoned ⟨region, earlier, ⟨ids, taken⟩, early, cleared⟩
      refine ⟨old.trans grows, fun later active => ?_, ?_⟩
      · obtain ⟨held, active'⟩ := still old active
        exact gone held active'
      · rintro ⟨other, member, committed⟩
        rcases List.mem_cons.mp member with rfl | older
        · obtain ⟨⟨later, active⟩, _⟩ := committed
          obtain ⟨held, active'⟩ := still old active
          exact gone held active'
        · exact unbegun ⟨other, older, committed⟩

variable {allowed : (walletSystem host).View → WalletEvent host → Prop}
  {start view : (walletSystem host).View}

theorem clientSound_of_run (run : System.Run (walletContract host) allowed start view)
    (empty : start.history = []) (unlaunched : ∀ client, start.clients client = none)
    (client : Nat) : System.ClientKnown ClientSound view client := by
  refine run.client_invariant empty unlaunched (fun config => ?_) ?_ client
  · refine ⟨Tracked.sound_initial config, ?_, ?_, ?_, ?_⟩
    · intro region member
      cases member
    · rintro generation ⟨_, member, _⟩
      cases member
    · rintro generation ids ⟨_, member, _⟩
      cases member
    · rintro generation ⟨_, member, _⟩
      cases member
  · intro view client routine call before after _ _ sound move
    exact sound.move move

/-- An operation takes at most one generation. -/
theorem reservedSend_unique (run : System.Run (walletContract host) allowed start view)
    (empty : start.history = []) {routine generation other : Nat}
    (first : ReservedSend (P := P) (System.traceOf routine view.history) generation)
    (second : ReservedSend (P := P) (System.traceOf routine view.history) other) :
    generation = other := by
  induction run with
  | refl =>
    rw [empty] at first
    exact absurd first not_reservedSend_nil
  | @move view next event reached moved permitted ih =>
    rw [moved.history_eq] at first second
    cases moved with
    | locked client owner call before after alive started obeyed =>
      by_cases same : owner = routine
      · subst same
        rw [System.traceOf_observed_self] at first second
        have once : before.sendGeneration < after.sendGeneration → ∀ generation,
            ¬ ReservedSend (P := P) (System.traceOf owner view.history) generation :=
          fun takes => obeyed.reserves_once takes
        obtain ⟨b₁, a₁, held₁, low₁, rfl⟩ := first
        obtain ⟨b₂, a₂, held₂, low₂, rfl⟩ := second
        rcases List.mem_cons.mp held₁ with new₁ | old₁
        · cases new₁
          rcases List.mem_cons.mp held₂ with new₂ | old₂
          · cases new₂
            rfl
          · exact absurd ⟨b₂, a₂, old₂, low₂, rfl⟩ (once low₁ _)
        · rcases List.mem_cons.mp held₂ with new₂ | old₂
          · cases new₂
            exact absurd ⟨b₁, a₁, old₁, low₁, rfl⟩ (once low₂ _)
          · exact ih ⟨b₁, a₁, old₁, low₁, rfl⟩ ⟨b₂, a₂, old₂, low₂, rfl⟩
      · rw [System.traceOf_observed_of_ne same] at first second
        exact ih first second
    | answered client owner call state request answer world choice alive started obeyed
        responded =>
      by_cases same : owner = routine
      · subst same
        rw [System.traceOf_observed_self] at first second
        exact ih (ReservedSend.of_answered first) (ReservedSend.of_answered second)
      · rw [System.traceOf_observed_of_ne same] at first second
        exact ih first second
    | _ => exact ih first second

end Clients

section Cancellation

variable {host : HostModel P}

/-- A cancellation that meets a committed send is refused, changes nothing and
asks the host for nothing. Nothing is said about the other calls. -/
def cancelContract (host : HostModel P) : (walletSystem host).Contract where
  rule call := {
    region := fun log before after => call = .cancelSend → log = [] ∧
      ∀ generation, State.tracked before |>.Committed generation → after = before
    call := fun log _ => call = .cancelSend → ∃ before after, Held (P := P) log before after ∧
      ∀ generation, ¬ before.tracked.Committed generation }
  post call log reply := call = .cancelSend → ∃ before after, Held (P := P) log before after ∧
    ∀ generation, before.tracked.Committed generation →
      reply = .done (.error .sendCancellationTooLate)

theorem cancelSend_refused :
    Async.Obeys ((cancelContract host).rule .cancelSend) ((cancelContract host).post .cancelSend)
      [] (PublicCall.cancelSend.routine : Async State (walletHost P) Reply) := by
  have region : Fallible.Obeys ((cancelContract host).rule .cancelSend)
      (fun later _ => ∃ before after, Held (P := P) later before after ∧
        ∀ generation, ¬ before.tracked.Committed generation)
      (fun later error => ∃ before after, Held (P := P) later before after ∧
        ∀ generation, before.tracked.Committed generation → error = .sendCancellationTooLate) []
      (Engine.withLock (cancelSendRegion P.codec) : Engine P _) := by
    refine Fallible.obeys_locked (fun state _ => ⟨rfl, fun generation committed => ?_⟩) ?_ ?_
    · rw [cancelSendRegion_of_committed committed]
    · intro state ids after ran
      refine ⟨state, after, List.mem_cons_self, fun generation committed => ?_⟩
      rw [cancelSendRegion_of_committed committed] at ran
      cases ran
    · intro state error after ran
      refine ⟨state, after, List.mem_cons_self, fun generation committed => ?_⟩
      rw [cancelSendRegion_of_committed committed] at ran
      cases ran
      rfl
  have whole : Fallible.Obeys ((cancelContract host).rule .cancelSend)
      (fun later _ => ∃ before after, Held (P := P) later before after ∧
        ∀ generation, ¬ before.tracked.Committed generation)
      (fun later error => ∃ before after, Held (P := P) later before after ∧
        ∀ generation, before.tracked.Committed generation → error = .sendCancellationTooLate) []
      (Engine.cancelSend : Engine P Unit) := by
    refine region.bind fun later ids _ ⟨before, after, held, free⟩ => ?_
    refine (cancelRequests_obeys fun last grows _ _ => ⟨before, after, held.mono grows, free⟩).mono
      (fun last _ grows _ => ⟨before, after, held.mono grows, free⟩) fun _ _ _ known => known
  refine Async.Obeys.bind whole fun later result _ known _ => ?_
  cases result with
  | ok value =>
    obtain ⟨before, after, held, free⟩ := known
    exact ⟨before, after, held, fun generation committed => absurd committed (free generation)⟩
  | error error =>
    obtain ⟨before, after, held, late⟩ := known
    refine ⟨before, after, held, fun generation committed => ?_⟩
    rw [late generation committed]

theorem cancelContract_obeyed (call : PublicCall) :
    Async.Obeys ((cancelContract host).rule call) ((cancelContract host).post call) []
      (call.routine : Async State (walletHost P) Reply) := by
  by_cases same : call = .cancelSend
  · subst same
    exact cancelSend_refused
  · exact Async.obeys_of_forall (fun _ _ asked => absurd asked same)
      (fun _ _ _ asked => absurd asked same) (fun _ _ asked => absurd asked same) _

end Cancellation

section Boundary

variable {host : HostModel P}
variable {client generation : Nat}

/-- The commit of a generation has begun, and since then neither did the operation
of that generation clear the slot nor did the client crash. -/
inductive CommitOpen (client generation : Nat) : List (WalletEvent host) → Prop
  | begun {routine : Nat} {before after : State} {older : List (WalletEvent host)}
      (early : ¬ before.tracked.Committed generation)
      (begins : after.tracked.Committed generation) :
      CommitOpen client generation (.observed client routine (.locked before after) :: older)
  | later {event : WalletEvent host} {older : List (WalletEvent host)}
      (earlier : CommitOpen client generation older) (alive : event ≠ .crashed client)
      (uncleared : ∀ routine before after, event = .observed client routine (.locked before after) →
        ReservedSend (P := P) (System.traceOf routine older) generation →
        State.activeSend after ≠ none) : CommitOpen client generation (event :: older)

variable {allowed : (walletSystem host).View → WalletEvent host → Prop}
  {start view : (walletSystem host).View} {config : (walletSystem host).Config}
  {world : host.World}

/-- While the commit is open, its client holds it. -/
theorem committed_of_commitOpen (run : System.Run (walletContract host) allowed start view)
    (empty : start.history = []) (isOpen : CommitOpen client generation view.history) :
    ∃ state, view.clients client = some state ∧ state.tracked.Committed generation := by
  induction run with
  | refl => rw [empty] at isOpen; cases isOpen
  | @move view next event reached moved permitted ih =>
    rw [moved.history_eq] at isOpen
    cases isOpen with
    | begun early begins =>
      cases moved.clientMove client with
      | region routine call before after same alive becomes started obeyed =>
        cases same
        exact ⟨_, becomes, begins⟩
      | launched setup same unused unseen becomes => cases same
      | crashed same becomes => cases same
      | other same quiet => exact absurd rfl (quiet _ _ _)
    | later earlier alive uncleared =>
      obtain ⟨state, found, committed⟩ := ih earlier
      cases moved.clientMove client with
      | region routine call before after same alive becomes started obeyed =>
        obtain rfl := Option.some.inj (found.symm.trans alive)
        rcases StateMove.committed obeyed committed with still | ⟨reserved, cleared⟩
        · exact ⟨after, becomes, still⟩
        · exact absurd cleared (uncleared routine state after same reserved)
      | launched setup same unused unseen becomes => rw [found] at unused; cases unused
      | crashed same becomes => exact absurd same alive
      | other same quiet => exact ⟨state, same.trans found, committed⟩

/-- The state of a client whose commit is open. -/
structure HoldsCommit (state : State) (generation : Nat) : Prop where
  active : ∃ ids, state.activeSend = some (generation, ids)
  resolution : state.activeResolution = none
  live : state.snapshot.send.phase ≠ .cancelled
  running : state.shutdown = false

theorem holdsCommit_of_commitOpen (run : System.Run (walletContract host) allowed start view)
    (empty : start.history = []) (unlaunched : ∀ client, start.clients client = none)
    (isOpen : CommitOpen client generation view.history) :
    ∃ state, view.clients client = some state ∧ HoldsCommit state generation := by
  obtain ⟨state, alive, ⟨ids, active⟩, _⟩ := committed_of_commitOpen run empty isOpen
  have sound := ((clientSound_of_run run empty unlaunched client).alive alive).sound
  have taken : state.tracked.send.isSome = true := by rw [active]; rfl
  exact ⟨state, alive, ⟨ids, active⟩, sound.resolution taken, sound.live taken, sound.running taken⟩

/-- A shutdown that cancels requests has set the flag before. -/
theorem shutdown_cancels_late (run : System.Run (walletContract host) allowed start view)
    (empty : start.history = []) (unlaunched : ∀ client, start.clients client = none)
    {routine rounds : Nat} {id : HttpRequestId} {answer : HostCall.Answer P (.cancel id)}
    {newer older : List (WalletEvent host)}
    (recorded : view.history = newer ++ .observed client routine (.answered (.cancel id) answer) ::
      older) (asked : .invoked client routine (.shutdown rounds) ∈ older) :
    ¬ CommitOpen client generation older := by
  intro isOpen
  obtain ⟨earlier, next, before, moved, _, rfl⟩ := run.origin empty recorded
  cases moved with
  | answered _ _ call state _ _ world choice alive started obeyed responded =>
    obtain ⟨_, rfl⟩ := before.invoked_unique empty asked started
    obtain ⟨locked, unlocked, held, down⟩ := obeyed rounds rfl
    have region := before.observed_of_mem_traceOf empty started held
    obtain ⟨_, found, holds⟩ := holdsCommit_of_commitOpen before empty unlaunched isOpen
    have stopped := ((clientSound_of_run before empty unlaunched client).alive found).stopped
      ⟨routine, locked, unlocked⟩ (System.mem_regionsOf.mpr region) down
    rw [holds.running] at stopped
    cases stopped

/-- The operation writes no record but the resolution of one that it found. -/
def ResolvesFound (log : Log P) (mutation : JournalCompareExchange P.codec.Payload) : Prop :=
  ∃ config record old new, Inspected log config record old ∧
    decodeDurableRecord P.codec mutation.replacement = .ok new ∧
    new.messageHash = old.messageHash ∧ new.signedBoc = old.signedBoc ∧
    old.stage.permitsReplacement = false ∧ new.stage.permitsReplacement = true ∧
    new.stage ≠ .failed

/-- An exchange resolves a record that was found, or belongs to an open commit. -/
theorem JournalMove.resolves_or_held {log : Log P} {call : PublicCall}
    {mutation : JournalCompareExchange P.codec.Payload} (move : JournalMove log call mutation) :
    ResolvesFound log mutation ∨ ∃ generation, CommitHeld log generation := by
  cases move with
  | resolve config pending subject resolution durable configured inspected unsettled examined
      sameOperation sameMessage evidence resolved stores =>
    obtain ⟨shows, same⟩ := PendingSendRecord.resolved_eq resolved
    refine .inl ⟨config, pending.journal, pending.durable, durable, inspected, stores.decoded,
      by rw [same], by rw [same], unsettled, shows.permitsReplacement, ?_⟩
    clear same
    cases resolution <;> simp_all [DurableSendRecord.Shows]
  | commit config prepared base configured prepares first based stores generation held =>
    exact .inr ⟨generation, held⟩
  | settle generation config prepared first request answer reference diagnostic external stored
      submitted answered stores => exact .inr ⟨generation, stored.held⟩

theorem ResolvesFound.not_commits {log : Log P}
    {mutation : JournalCompareExchange P.codec.Payload} (resolves : ResolvesFound log mutation) :
    ¬ Commits mutation := by
  obtain ⟨_, _, _, new, _, decoded, _, _, _, permits, _⟩ := resolves
  rintro ⟨found, same, stage⟩
  obtain rfl := Except.ok.inj (decoded.symm.trans same)
  rcases stage with stage | stage <;> rw [stage] at permits <;> cases permits

/-- The operation of an abandoned generation never holds a commit. -/
theorem not_commitHeld_of_abandoned (run : System.Run (walletContract host) allowed start view)
    (empty : start.history = []) (unlaunched : ∀ client, start.clients client = none)
    {client routine generation : Nat} {call : PublicCall}
    (invoked : .invoked client routine call ∈ view.history)
    (reserved : ReservedSend (P := P) (System.traceOf routine view.history) generation)
    (abandoned : Abandoned (System.regionsOf client view.history) generation)
    {log : Log P} (grows : log <:+ System.traceOf routine view.history) (held : Nat) :
    ¬ CommitHeld log held := by
  rintro ⟨newer, before, after, older, rfl, taken, committed, _⟩
  have suffix : older <:+ System.traceOf routine view.history :=
    ((List.suffix_cons _ older).trans (List.suffix_append newer _)).trans grows
  obtain rfl := reservedSend_unique run empty (taken.mono suffix) reserved
  have member : (.locked before after : Observation State (walletHost P)) ∈
      System.traceOf routine view.history :=
    grows.subset (List.mem_append_right _ List.mem_cons_self)
  have region : (⟨routine, before, after⟩ : WalletRegion host) ∈
      System.regionsOf client view.history :=
    System.mem_regionsOf.mpr (run.observed_of_mem_traceOf empty invoked member)
  rcases clientSound_of_run run empty unlaunched client with ⟨quiet, _⟩ | ⟨_, state, sound, _⟩
  · rw [quiet] at region
    cases region
  · exact (sound.abandoned abandoned).2.2 ⟨_, region, committed⟩

/-- The operation stores and submits no message of its own. -/
structure LeavesNothing (config : (walletSystem host).Config) (routine : Nat) : Prop where
  handsNothingOver : HandsNothingOver config routine
  exchanges : ∀ {client mutation answer} {newer older : List (WalletEvent host)}, config.history =
    newer ++ .observed client routine (.answered (.compareExchangeJournal mutation) answer) ::
      older →
    ResolvesFound (P := P) (System.traceOf routine older) mutation
  exchanging : ∀ {client mutation next},
    config.routines routine = some (client, .await (.compareExchangeJournal mutation) next) →
    ResolvesFound (P := P) (System.traceOf routine config.history) mutation

theorem leavesNothing_of_abandoned
    (reached : System.Reachable Unrestricted (System.initial world) config)
    {client routine generation : Nat} {call : PublicCall}
    (invoked : .invoked client routine call ∈ config.history)
    (reserved : ReservedSend (P := P) (System.traceOf routine config.history) generation)
    (abandoned : Abandoned (System.regionsOf client config.history) generation) :
    LeavesNothing config routine := by
  have run := walletSystem_disciplined reached
  have resolves : ∀ {log : Log P} {call mutation},
      log <:+ System.traceOf routine config.history → JournalMove log call mutation →
      ResolvesFound log mutation := by
    intro log call mutation grows move
    refine move.resolves_or_held.resolve_right fun ⟨held, commit⟩ => ?_
    exact not_commitHeld_of_abandoned run rfl (fun _ => rfl) invoked reserved abandoned grows held
      commit
  have exchanges : ∀ {client mutation answer} {newer older : List (WalletEvent host)},
      config.history = newer ++
        .observed client routine (.answered (.compareExchangeJournal mutation) answer) :: older →
      ResolvesFound (P := P) (System.traceOf routine older) mutation := by
    intro client mutation answer newer older recorded
    obtain ⟨earlier, next, _, moved, _, rfl⟩ := run.origin rfl recorded
    have grows : earlier.history <:+ config.history :=
      recorded ▸ (List.suffix_cons _ _).trans (List.suffix_append _ _)
    cases moved with
    | answered _ _ call _ _ _ _ _ _ _ obeyed _ => exact resolves (grows.filterMap _) obeyed
  refine ⟨handsNothingOver_of_unstored reached fun owner mutation result answered _ => ?_,
    exchanges, fun {owner mutation next} running => ?_⟩
  · obtain ⟨newer, older, split⟩ := List.append_of_mem answered
    exact (exchanges split).not_commits
  · obtain ⟨call, _, obeys⟩ := walletSystem_suspended reached running
    exact resolves (List.suffix_refl _) obeys.1

/-- A reachable configuration follows the cancellation contract. -/
theorem cancelContract_disciplined
    (reached : System.Reachable Unrestricted (System.initial world) config) :
    System.Run (cancelContract host) Unrestricted
      (System.initial (S := walletSystem host) world).toView config.toView :=
  reached.disciplined fun _ _ _ call _ => cancelContract_obeyed call

/-- The cancellation was refused and did nothing. -/
structure RefusedCancel (config : (walletSystem host).Config) (routine : Nat)
    (before after : State) : Prop where
  unchanged : after = before
  silent : ∀ owner call answer, .observed owner routine (.answered call answer) ∉ config.history
  tooLate : ∀ owner reply, .returned owner routine reply ∈ config.history →
    reply = .done (.error .sendCancellationTooLate)

section Refusal

variable {client routine generation : Nat} {before after : State}
  (run : System.Run (cancelContract host) allowed start view) (empty : start.history = [])
  (invoked : .invoked client routine .cancelSend ∈ view.history)
variable {owner other : Nat}

include run empty invoked

/-- The lock region of a cancellation is its first step. -/
theorem cancel_first {newer older : List (WalletEvent host)}
    (recorded : view.history = newer ++ .observed owner routine (.locked before after) :: older) :
    System.traceOf routine older = [] ∧
      ∀ generation, before.tracked.Committed generation → after = before := by
  obtain ⟨earlier, next, _, moved, _, rfl⟩ := run.origin empty recorded
  cases moved with
  | locked _ _ call _ _ found started obeyed =>
    have later := System.subset_of_split recorded started
    exact obeyed (run.invoked_unique empty later invoked).2

theorem cancel_region_unique {locked unlocked : State}
    (first : .observed owner routine (.locked before after) ∈ view.history)
    (second : .observed other routine (.locked locked unlocked) ∈ view.history) :
    locked = before := by
  have same := System.observed_unique
    (fun observation => ∃ before after : State, observation = .locked before after)
    (fun split ⟨_, _, same⟩ earlier seen => by
      subst same
      rw [(cancel_first run empty invoked split).1] at seen
      cases seen) second first ⟨locked, unlocked, rfl⟩ ⟨before, after, rfl⟩
  cases same
  rfl

/-- A cancellation that met a committed send makes no host call. -/
theorem cancel_silent {call : HostCall P} {answer : HostCall.Answer P call}
    (region : .observed owner routine (.locked before after) ∈ view.history)
    (committed : before.tracked.Committed generation) :
    .observed other routine (.answered call answer) ∉ view.history := by
  intro answered
  obtain ⟨newer, older, split⟩ := List.append_of_mem answered
  obtain ⟨earlier, next, _, moved, _, rfl⟩ := run.origin empty split
  cases moved with
  | answered _ _ asked _ _ _ _ _ _ started obeyed _ =>
    have grows := System.subset_of_split split
    obtain ⟨locked, unlocked, held, free⟩ :=
      obeyed (run.invoked_unique empty (grows started) invoked).2
    obtain ⟨_, observed⟩ := System.mem_traceOf.mp held
    rw [cancel_region_unique run empty invoked region (grows observed)] at free
    exact free generation committed

theorem cancel_tooLate {reply : Reply}
    (region : .observed owner routine (.locked before after) ∈ view.history)
    (committed : before.tracked.Committed generation)
    (returned : .returned other routine reply ∈ view.history) :
    reply = .done (.error .sendCancellationTooLate) := by
  obtain ⟨newer, older, split⟩ := List.append_of_mem returned
  obtain ⟨earlier, next, _, moved, _, rfl⟩ := run.origin empty split
  cases moved with
  | returned _ _ asked _ _ _ started obeyed =>
    have grows := System.subset_of_split split
    obtain ⟨locked, unlocked, held, late⟩ :=
      obeyed (run.invoked_unique empty (grows started) invoked).2
    obtain ⟨_, observed⟩ := System.mem_traceOf.mp held
    rw [cancel_region_unique run empty invoked region (grows observed)] at late
    exact late generation committed

end Refusal

theorem refusedCancel_of_commitOpen
    (reached : System.Reachable Unrestricted (System.initial world) config) {routine : Nat}
    {before after : State} {newer older : List (WalletEvent host)} (recorded : config.history =
      newer ++ .observed client routine (.locked before after) :: older)
    (asked : .invoked client routine .cancelSend ∈ older)
    (isOpen : CommitOpen client generation older) : RefusedCancel config routine before after := by
  have committed : before.tracked.Committed generation := by
    obtain ⟨earlier, next, reached, moved, _, rfl⟩ :=
      (walletSystem_disciplined reached).origin rfl recorded
    obtain ⟨state, alive, committed⟩ := committed_of_commitOpen reached rfl isOpen
    cases moved with
    | locked _ _ call _ _ found started obeyed =>
      obtain rfl := Option.some.inj (alive.symm.trans found)
      exact committed
  have run := cancelContract_disciplined reached
  have invoked := System.subset_of_split recorded asked
  have region : .observed client routine (.locked before after) ∈ config.history := by
    rw [recorded]
    exact List.mem_append_right _ List.mem_cons_self
  exact ⟨(cancel_first run rfl invoked recorded).2 generation committed,
    fun _ _ _ => cancel_silent run rfl invoked region committed,
    fun _ _ => cancel_tooLate run rfl invoked region committed⟩

/-- The commit boundary of every client. -/
structure CommitBoundary (config : (walletSystem host).Config) : Prop where
  /-- The commit flag implies an active send. -/
  started : ∀ {client state}, config.clients client = some state →
    State.sendCommitStarted state = true → (State.activeSend state).isSome = true
  /-- An open commit keeps its slot, and no slot is given to another operation. -/
  holds : ∀ {client generation}, CommitOpen client generation config.history →
    ∃ state, config.clients client = some state ∧ HoldsCommit state generation
  /-- A cancellation meets an open commit in vain. -/
  refuses : ∀ {client routine generation before after newer older},
    config.history = newer ++ .observed client routine (.locked before after) :: older →
    .invoked client routine .cancelSend ∈ older → CommitOpen client generation older →
    RefusedCancel config routine before after
  /-- A shutdown cancels no request while a commit is open. -/
  outlasts : ∀ {client routine generation rounds : Nat} {id : HttpRequestId}
    {answer : HostCall.Answer P (.cancel id)} {newer older : List (WalletEvent host)},
    config.history = newer ++ .observed client routine (.answered (.cancel id) answer) :: older →
    .invoked client routine (.shutdown rounds) ∈ older → ¬ CommitOpen client generation older
  /-- A send that lost its slot before the commit stores and submits nothing. -/
  abandons : ∀ {client routine generation call},
    .invoked client routine call ∈ config.history →
    ReservedSend (P := P) (System.traceOf routine config.history) generation →
    Abandoned (System.regionsOf client config.history) generation →
    LeavesNothing config routine

/-- The commit boundary holds for every host and every interleaving. -/
theorem commit_boundary (reached : System.Reachable Unrestricted (System.initial world) config) :
    CommitBoundary config := by
  have run := walletSystem_disciplined reached
  have unlaunched (client : Nat) :
      (System.initial (S := walletSystem host) world).clients client = none := rfl
  refine ⟨fun {client state} alive flag => ?_, holdsCommit_of_commitOpen run rfl unlaunched,
    refusedCancel_of_commitOpen reached, shutdown_cancels_late run rfl unlaunched,
    leavesNothing_of_abandoned reached⟩
  exact ((clientSound_of_run run rfl unlaunched client).alive alive).sound.committed flag

end Boundary

/-- A transfer is cancelled after its record was stored. -/
def lateCancelSchedule : List plainHost.system.Action :=
  plainInvoke (.send ⟨⟨"transfer", @rfl Bool false⟩, false, plainIntent⟩) ++
    plainAdvance 0 17 (accountBody "uninit" 100) ++ [.invoke 0 .cancelSend] ++
    plainAdvance 1 2 acceptedBody

set_option maxRecDepth 20000 in
theorem commit_boundary_late_cancel : ∃ config state,
    plainStart.run System.unchecked lateCancelSchedule = some config ∧ config.clients 0 = some state ∧
      State.sendCommitStarted state = true ∧ CommitBoundary config := by
  have ran : (plainStart.run System.unchecked lateCancelSchedule).bind (fun config =>
      (config.clients 0).map State.sendCommitStarted) = some true := by decide +kernel
  obtain ⟨config, ran, alive⟩ := Option.bind_eq_some_iff.mp ran
  obtain ⟨state, alive, started⟩ := Option.map_eq_some_iff.mp alive
  exact ⟨config, state, ran, alive, started, commit_boundary (.of_unchecked ran)⟩

end WalletEngine
