import WalletEngine.Safety.LateResults

/-! # Older pages

A completed load of an older page moves the cursor to an older logical time or ends the
pagination. Without a refresh nothing else moves the cursor, so its logical time bounds the number
of pages that can be loaded. -/

namespace WalletEngine

section Pages

variable {before after : State}

/-- The logical time of the cursor. -/
def State.cursorTime (state : State) : Nat := (state.activityCursor.map (·.1)).getD 0

/-- The region in which a call of `load_more_activity` completes. -/
def PageCompleted (before after : State) : Prop :=
  ∃ generation result update, finishLoadMoreActivity generation result before = (.ok update, after) ∧
    update.outcome = .completed

/-- The cursor has moved to an older logical time. -/
def CursorLowered (before after : State) : Prop :=
  ∃ newer older, before.activityCursor = some newer ∧ after.activityCursor = some older ∧
    older.1 < newer.1

/-- The pagination has ended, and nothing was added. -/
def PagesEnded (before after : State) : Prop :=
  after.activityHasMore = false ∧ after.activity = before.activity ∧
    after.activityCursor = before.activityCursor

theorem CursorLowered.lt (lowered : CursorLowered before after) :
    after.cursorTime < before.cursorTime := by
  obtain ⟨newer, older, was, becomes, lower⟩ := lowered
  rw [State.cursorTime, State.cursorTime, was, becomes]
  exact lower

theorem applyActivityPage_moves (state : State) (page : ActivityPage) :
    CursorLowered state (applyActivityPage state page).1 ∨
      PagesEnded state (applyActivityPage state page).1 := by
  unfold applyActivityPage
  split
  · rename_i moved
    unfold cursorAdvanced at moved
    split at moved
    · rename_i newer older was becomes
      exact .inl ⟨newer, older, was, becomes, of_decide_eq_true moved⟩
    · cases moved
  · exact .inr ⟨rfl, rfl, rfl⟩

theorem revised_moves {state : State}
    (moves : CursorLowered before state ∨ PagesEnded before state) :
    CursorLowered before state.revised ∨ PagesEnded before state.revised := by
  rw [revised_eq]
  exact moves

theorem PageCompleted.moves (completed : PageCompleted before after) :
    CursorLowered before after ∨ PagesEnded before after := by
  obtain ⟨generation, result, update, ran, outcome⟩ := completed
  have ends : Region.Ends (finishLoadMoreActivity generation result) before fun ended after =>
      ∀ update, ended = .ok update → update.outcome = .completed →
        CursorLowered before after ∨ PagesEnded before after := by
    refine Region.ends_get (Region.ends_ite (fun _ => ?_) fun _ => ?_)
    · rintro _ ⟨⟩ ⟨⟩
    cases result with
    | ok page =>
      refine Region.ends_set (Region.ends_bind (nextRevision_ends _ (fun _ => ?_) fun _ => ?_))
      · rintro _ ⟨⟩ -
        have moves := applyActivityPage_moves before page
        exact @revised_moves before { (applyActivityPage before page).1 with
          activePagination := none
          snapshot.activityPaginationResource := .ready } moves
      · exact forall_of_error
    | error error =>
      have failed : (loadOutcome (.error error : Except DomainError ActivityPage)).1 ≠
          .completed := by
        simp only [loadOutcome]
        split <;> rintro ⟨⟩
      refine Region.ends_set (Region.ends_bind (nextRevision_ends _ (fun _ => ?_) fun _ => ?_))
      · rintro _ ⟨⟩ ended
        exact absurd ended failed
      · exact forall_of_error
  rw [Region.Ends, ran] at ends
  exact ends update rfl outcome

end Pages

section Cursor

variable {P : Platform} {log : Log P} {call : PublicCall} {family : OperationFamily}
  {generation : Nat} {before after : State}

@[simp] theorem revised_cursorTime (state : State) :
    state.revised.cursorTime = state.cursorTime := by
  rw [revised_eq]
  rfl

theorem releaseAll_cursorTime (codec : JournalCodec) (state : State) :
    (state.releaseAll codec).cursorTime = state.cursorTime := by
  unfold State.releaseAll
  cases state.activeSend with
  | none => rfl
  | some active =>
    obtain ⟨workflow, snapshot, cancelled⟩ := cancelWorkflow_eq codec state
    simp only [Option.isSome_some, if_true, cancelled]
    rfl

theorem ClientEffect.cursorTime_eq (effect : ClientEffect call before after) :
    after.cursorTime = before.cursorTime := by
  cases effect with
  | cancelRefresh | cancelPagination | cancelNftRefresh | cancelNftPagination | cancelSend =>
    exact revised_cursorTime _
  | stop rounds codec asked running released releases after revises =>
    have stopped : after.cursorTime = released.cursorTime := by
      rw [revises]
      split
      · exact revised_cursorTime _
      · rfl
    exact stopped.trans (releases ▸ releaseAll_cursorTime codec _)
  | _ => rfl

theorem OpeningEffect.cursorTime_eq (effect : OpeningEffect before after) :
    after.cursorTime = before.cursorTime := by
  cases effect with
  | resolution => rfl
  | _ => exact revised_cursorTime _

theorem OwnerEffect.cursorTime_eq (effect : OwnerEffect before family generation after) :
    after.cursorTime = before.cursorTime := by
  cases effect with
  | publish | releaseSend | completeResolution => exact revised_cursorTime _
  | _ => rfl

theorem TrackEffect.cursorTime_eq {listed tracked : List HttpRequestId}
    (effect : TrackEffect before family generation listed tracked after) :
    after.cursorTime = before.cursorTime := by
  cases effect <;> rfl

theorem LoadEffect.cursorTime_le (effect : LoadEffect log before family generation after)
    (alone : before.activeRefresh = none) : after.cursorTime ≤ before.cursorTime := by
  cases effect with
  | refreshed generation value current =>
    rw [State.isCurrent, State.slot, alone] at current
    cases current
  | refreshDone => exact le_rfl
  | paged generation result current =>
    rw [revised_cursorTime]
    rcases result with error | page
    · exact le_rfl
    · rcases applyActivityPage_moves before page with lowered | ⟨-, -, same⟩
      · exact lowered.lt.le
      · exact (congrArg (fun cursor => (Option.map Prod.fst cursor).getD 0) same).le
  | nftsRefreshed generation result current =>
    obtain ⟨_, _, _, _, same⟩ := loaded_nfts before result (.inl rfl)
    rw [revised_cursorTime, same]
    exact le_rfl
  | nftsPaged generation result current =>
    obtain ⟨_, _, _, _, same⟩ := loaded_nfts before result (.inr rfl)
    rw [revised_cursorTime, same]
    exact le_rfl

/-- Without a refresh the cursor never moves to a newer time. -/
theorem Effect.cursorTime_le (effect : Effect log call before after)
    (alone : before.activeRefresh = .none) : after.cursorTime ≤ before.cursorTime := by
  cases effect with
  | none settled => exact le_rfl
  | client _ free effect => exact effect.cursorTime_eq.le
  | opening _ free effect untried => exact effect.cursorTime_eq.le
  | owner family generation _ owns effect => exact effect.cursorTime_eq.le
  | start family generation listed id _ owns effect => exact effect.cursorTime_eq.le
  | finish family generation listed id _ unloaded heard effect => exact effect.cursorTime_eq.le
  | load family generation _ reserved effect => exact effect.cursorTime_le alone

end Cursor

section Runs

variable {P : Platform} {host : HostModel P}
  {allowed : (walletSystem host).View → (walletSystem host).Event → Prop}

/-- A call completed and left more to load. -/
def TurnsPage (region : System.LockRegion (walletSystem host)) : Prop :=
  PageCompleted region.before region.after ∧ State.activityHasMore region.after = true

/-- The logical time of the cursor before the oldest of some regions. -/
def startTime (regions : List (System.LockRegion (walletSystem host))) (state : State) : Nat :=
  (regions.getLast?.map fun region => State.cursorTime region.before).getD state.cursorTime

/-- The pages turned since a point without a refresh are paid for by the cursor. -/
def PagesPaid (regions : List (System.LockRegion (walletSystem host))) (state : State) : Prop :=
  ∀ newer older, regions = newer ++ older →
    (∀ region ∈ newer, State.activeRefresh region.before = none) →
    ∀ turns, List.Sublist turns newer → (∀ region ∈ turns, TurnsPage region) →
      turns.length + state.cursorTime ≤ startTime newer state

theorem PagesPaid.locked {regions : List (System.LockRegion (walletSystem host))}
    {routine : Nat} {log : Log P} {call : PublicCall} {before after : State}
    (paid : PagesPaid regions before) (effect : Effect log call before after) :
    PagesPaid (⟨routine, before, after⟩ :: regions) after := by
  intro newer older split quiet turns chosen turned
  cases newer with
  | nil =>
    rw [List.sublist_nil.mp chosen]
    exact (Nat.zero_add _).le
  | cons region newer =>
    obtain ⟨rfl, rest⟩ := List.cons.inj split
    have earlier := paid newer older rest fun region member =>
      quiet region (List.mem_cons_of_mem _ member)
    have start : startTime (⟨routine, before, after⟩ :: newer) after = startTime newer before := by
      cases newer with
      | nil => rfl
      | cons next newer => rw [startTime, startTime, List.getLast?_cons_cons]; rfl
    rw [start]
    cases chosen with
    | cons _ chosen =>
      have kept := effect.cursorTime_le (quiet _ List.mem_cons_self)
      have count := earlier turns chosen turned
      omega
    | @cons_cons turns _ _ chosen =>
      have count := earlier turns chosen fun region member =>
        turned region (List.mem_cons_of_mem _ member)
      obtain ⟨completed, more⟩ := turned _ List.mem_cons_self
      rcases completed.moves with lowered | ended
      · have lower : after.cursorTime < before.cursorTime := lowered.lt
        rw [List.length_cons]
        omega
      · rw [ended.1] at more
        cases more

/-- Loading older pages ends. While no refresh is active, the number of calls that complete and
leave more to load is at most the logical time of the cursor at the start, and every completed
call lowers that time or ends the pagination. -/
theorem older_pages_end {world : host.World} {config : (walletSystem host).Config}
    (reached : System.Reachable allowed (System.initial world) config) (client : Nat)
    {newer older : List (System.LockRegion (walletSystem host))}
    (split : System.regionsOf client config.history = newer ++ older)
    (quiet : ∀ region ∈ newer, State.activeRefresh region.before = none) :
    (∀ turns, List.Sublist turns newer → (∀ region ∈ turns, TurnsPage region) →
      ∀ first ∈ newer.getLast?, turns.length ≤ State.cursorTime first.before) ∧
    ∀ region ∈ newer, PageCompleted region.before region.after →
      CursorLowered region.before region.after ∨ PagesEnded region.before region.after := by
  refine ⟨fun turns chosen turned first oldest => ?_, fun region _ => PageCompleted.moves⟩
  have paid : System.ClientKnown PagesPaid config.toView client :=
    (custody_disciplined reached).client_invariant rfl (fun _ => rfl)
      (fun setup => ?_) (fun _ _ _ _ _ _ _ _ paid effect => paid.locked effect) client
  · rcases paid with ⟨none, -⟩ | ⟨-, state, paid, -⟩
    · obtain ⟨rfl, -⟩ := List.append_eq_nil_iff.mp (split.symm.trans none)
      cases oldest
    · have count := paid newer older split quiet turns chosen turned
      unfold startTime at count
      rw [Option.mem_def.mp oldest] at count
      exact (Nat.le_add_right _ _).trans count
  · intro newer older split quiet turns chosen turned
    obtain ⟨rfl, -⟩ := List.append_eq_nil_iff.mp split.symm
    rw [List.sublist_nil.mp chosen]
    exact (Nat.zero_add _).le

end Runs

section Plain

/-- A provider whose pages are empty, with the cursor that the body names. -/
def pagingPlatform : Platform := { plainPlatform with
  views := { plainPlatform.views with
    parseActivity := fun
      | .num (.posInt time _) => .ok ⟨[], some (time, ⟨""⟩), true⟩
      | _ => .error (invalidResponse "") } }

abbrev pagingHost : JournalHost pagingPlatform := memoryHost (P := pagingPlatform) ()

def pagingStart : pagingHost.system.Config := System.initial fun _ => []

/-- A refresh and two pages; the second page repeats the first. -/
def pagingSchedule : List pagingHost.system.Action :=
  let answers (routine steps time : Nat) : List pagingHost.system.Action :=
    List.replicate steps (.advance routine (.body (numberBody time)))
  [.launch plainConfig, .invoke 0 .refresh] ++ answers 0 9 9 ++ [.invoke 0 .loadMoreActivity] ++
    answers 1 3 4 ++ [.invoke 0 .loadMoreActivity] ++ answers 2 3 4

/-- The regions of the two pages. -/
def pagingRegions (config : pagingHost.system.Config) :
    List (System.LockRegion pagingHost.system) :=
  (System.regionsOf 0 config.history).take 4

/-- For each region whether it ran without a refresh, and what became of the cursor. -/
def pagingTimes (config : pagingHost.system.Config) : List (Bool × Nat × Nat × Bool) :=
  (pagingRegions config).map fun region =>
    ((State.activeRefresh region.before).isNone, State.cursorTime region.before,
      State.cursorTime region.after, State.activityHasMore region.after)

set_option maxRecDepth 20000 in
theorem older_pages_end_repeated : ∃ config,
    pagingStart.run System.unchecked pagingSchedule = some config ∧
      pagingTimes config =
        [(true, 4, 4, false), (true, 4, 4, true), (true, 9, 4, true), (true, 9, 9, true)] ∧
      (∀ turns, List.Sublist turns (pagingRegions config) → (∀ region ∈ turns, TurnsPage region) →
        ∀ first ∈ (pagingRegions config).getLast?,
          turns.length ≤ State.cursorTime first.before) ∧
      ∀ region ∈ pagingRegions config, PageCompleted region.before region.after →
        CursorLowered region.before region.after ∨ PagesEnded region.before region.after := by
  have ran : (pagingStart.run System.unchecked pagingSchedule).map pagingTimes =
      some [(true, 4, 4, false), (true, 4, 4, true), (true, 9, 4, true), (true, 9, 9, true)] := by
    decide +kernel
  obtain ⟨config, ran, times⟩ := Option.map_eq_some_iff.mp ran
  refine ⟨config, ran, times, older_pages_end (.of_unchecked ran) 0
    (List.take_append_drop 4 _).symm fun region member => ?_⟩
  have alone : ∀ shown ∈ pagingTimes config, shown.1 = true := by
    rw [times]
    decide
  exact Option.isNone_iff_eq_none.mp (alone _ (List.mem_map_of_mem member))

end Plain

end WalletEngine
