import WalletEngine.Contract.Custody

/-! # Slots and generations

A lock region keeps the owner of a slot, empties the slot, or counts a new generation and
gives the slot to it. So a generation that lost its slot never gets it back. -/

namespace WalletEngine

variable {P : Platform} {log : Log P} {call : PublicCall} {family : OperationFamily}
  {generation : Nat} {before after : State}

/-- What a lock region does to the slot and the counter of a family. -/
inductive SlotStep (before after : State) (family : OperationFamily) : Prop
  | kept (counted : after.generation family = before.generation family)
      (owner : (after.slot family).map (·.1) = (before.slot family).map (·.1))
  | emptied (counted : after.generation family = before.generation family)
      (owner : after.slot family = none)
  | counted (counted : after.generation family = before.generation family + 1)
      (owner : after.slot family = before.slot family)
  | taken (ids : List HttpRequestId)
      (counted : after.generation family = before.generation family + 1)
      (owner : after.slot family = some (before.generation family + 1, ids))

theorem SlotStep.revised (step : SlotStep before after family) :
    SlotStep before after.revised family := by
  cases step with
  | kept counted owner =>
    exact .kept ((revised_generation _ family).trans counted) (by rw [revised_slot, owner])
  | emptied counted owner =>
    exact .emptied ((revised_generation _ family).trans counted) ((revised_slot _ family).trans owner)
  | counted counted owner =>
    exact .counted ((revised_generation _ family).trans counted) ((revised_slot _ family).trans owner)
  | taken ids counted owner =>
    exact .taken ids ((revised_generation _ family).trans counted)
      ((revised_slot _ family).trans owner)

/-- A shutdown leaves no slot taken. -/
theorem stopped_slot {codec : JournalCodec} {released final : State}
    (releases : released = ({ before with closing := true } : State).releaseAll codec)
    (revises : final = if before.hasActiveWork then released.revised else released) :
    ({ final with shutdown := true, waiters := [] } : State).slot family = none := by
  have emptied : final.slot family = none := by
    rw [revises, releases]
    split
    · rw [revised_slot]
      exact releaseAll_slot codec _ family
    · exact releaseAll_slot codec _ family
  cases family <;> exact emptied

theorem ClientEffect.slotStep (effect : ClientEffect call before after) :
    SlotStep before after family := by
  cases effect with
  | allocate | wait | disarm | close | closeAndWait => cases family <;> exact .kept rfl rfl
  | countSend | countResolution | countPreview =>
    cases family <;> first | exact .kept rfl rfl | exact .counted rfl rfl
  | reservePreview nextId later running =>
    cases family <;> first | exact .kept rfl rfl | exact .taken [] rfl rfl
  | trackPreview generation ids tracked running active =>
    cases family <;> first
      | exact .kept rfl rfl
      | exact .kept rfl (by simp [State.slot, active])
  | releasePreview | dropRefresh =>
    cases family <;> first | exact .kept rfl rfl | exact .emptied rfl rfl
  | cancelRefresh | cancelPagination | cancelNftRefresh | cancelNftPagination | cancelSend =>
    refine SlotStep.revised ?_
    cases family <;> first | exact .kept rfl rfl | exact .emptied rfl rfl
  | stop rounds codec asked running released releases after revises =>
    exact .emptied (stopped_generation releases revises) (stopped_slot releases revises)

theorem OpeningEffect.slotStep (effect : OpeningEffect before after) :
    SlotStep before after family := by
  cases effect with
  | resolution nextId later running vacant =>
    cases family <;> first | exact .kept rfl rfl | exact .taken [] rfl rfl
  | send | refresh | pagination | nftRefresh | nftPagination =>
    refine SlotStep.revised ?_
    cases family <;> first
      | exact .kept rfl rfl
      | exact .taken _ rfl rfl
      | exact .emptied rfl rfl

theorem OwnerEffect.slotStep {owned : OperationFamily}
    (effect : OwnerEffect before owned generation after) : SlotStep before after family := by
  cases effect with
  | commit | allocate | remember => cases family <;> exact .kept rfl rfl
  | releaseResolution => cases family <;> first | exact .kept rfl rfl | exact .emptied rfl rfl
  | publish | releaseSend | completeResolution =>
    refine SlotStep.revised ?_
    cases family <;> first | exact .kept rfl rfl | exact .emptied rfl rfl

theorem TrackEffect.slotStep {owned : OperationFamily} {listed tracked : List HttpRequestId}
    (effect : TrackEffect before owned generation listed tracked after) :
    SlotStep before after family := by
  cases effect with
  | send generation listed tracked active =>
    cases family <;> first
      | exact .kept rfl rfl
      | exact .kept rfl (by simp [State.slot, active])
  | resolution generation listed tracked active =>
    cases family <;> first
      | exact .kept rfl rfl
      | exact .kept rfl (by simp [State.slot, active])

theorem LoadEffect.slotStep {owned : OperationFamily}
    (effect : LoadEffect log before owned generation after) : SlotStep before after family := by
  rcases effect.spares with rfl | ⟨changed, rfl, spared⟩
  · cases family <;> first | exact .kept rfl rfl | exact .emptied rfl rfl
  · refine SlotStep.revised ?_
    rcases spared.slot family with same | empty
    · exact .kept (spared.generation family) (by rw [same])
    · exact .emptied (spared.generation family) empty

theorem Effect.slotStep (effect : Effect log call before after) (family : OperationFamily) :
    SlotStep before after family := by
  cases effect with
  | none settled => exact .kept rfl rfl
  | client _ free effect => exact effect.slotStep
  | opening _ free effect untried => exact effect.slotStep
  | owner _ _ _ owns effect => exact effect.slotStep
  | start _ _ listed id _ owns effect => exact effect.slotStep
  | finish _ _ listed id _ unloaded heard effect => exact effect.slotStep
  | load _ _ _ reserved effect => exact effect.slotStep

/-- Only a running client counts a generation. -/
theorem Effect.running_of_counted (effect : Effect log call before after)
    (counted : after.generation family = before.generation family + 1) : before.Running := by
  have unchanged : after.generation family ≠ before.generation family := by omega
  cases effect with
  | none settled => exact absurd rfl unchanged
  | client _ free effect =>
    cases effect with
    | allocate _ _ running | countSend _ _ running | countResolution _ _ running
    | countPreview _ _ running | reservePreview _ _ running | trackPreview _ _ _ running
    | wait _ running => exact running
    | releasePreview | dropRefresh | disarm | close | closeAndWait =>
      refine absurd ?_ unchanged
      cases family <;> rfl
    | cancelRefresh | cancelPagination | cancelNftRefresh | cancelNftPagination | cancelSend =>
      refine absurd ?_ unchanged
      rw [revised_generation]
      cases family <;> rfl
    | stop rounds codec asked running released releases after revises =>
      exact absurd (stopped_generation releases revises) unchanged
  | opening _ free effect untried =>
    cases effect with
    | send _ _ _ running | resolution _ _ running | refresh _ _ _ _ running
    | pagination _ _ _ running | nftRefresh _ _ _ running
    | nftPagination _ _ _ running => exact running
  | owner _ _ _ owns effect => exact absurd effect.generation_eq unchanged
  | start _ _ listed id _ owns effect => exact absurd effect.generation_eq unchanged
  | finish _ _ listed id _ unloaded heard effect => exact absurd effect.generation_eq unchanged
  | load _ _ _ reserved effect => exact absurd effect.generation_eq unchanged

theorem revised_shutdown (state : State) : state.revised.shutdown = state.shutdown := by
  rw [revised_eq]

/-- Generations are counted upwards, and one that has lost its slot never gets it back. -/
structure State.Succeeds (older newer : State) : Prop where
  counted : ∀ family, older.generation family ≤ newer.generation family
  current : ∀ {family generation}, generation ≤ older.generation family →
    newer.isCurrent family generation = true → older.isCurrent family generation = true

theorem State.Succeeds.refl (state : State) : state.Succeeds state :=
  ⟨fun _ => le_rfl, fun _ current => current⟩

theorem State.Succeeds.trans {first second third : State} (one : first.Succeeds second)
    (two : second.Succeeds third) : first.Succeeds third :=
  ⟨fun family => (one.counted family).trans (two.counted family), fun bound current =>
    one.current bound (two.current (bound.trans (one.counted _)) current)⟩

theorem Effect.succeeds (effect : Effect log call before after) : before.Succeeds after := by
  refine ⟨fun family => ?_, fun {family generation} bound current => ?_⟩
  · cases effect.slotStep family with
    | kept counted _ | emptied counted _ => exact counted.ge
    | counted counted _ | taken _ counted _ => omega
  · rw [State.isCurrent] at current ⊢
    cases effect.slotStep family with
    | kept _ owner =>
      have same : ∀ slot : Slot, slot.any (·.1 == generation) =
          (slot.map (·.1)).any (· == generation) := by
        intro slot
        cases slot <;> rfl
      rw [same] at current ⊢
      rw [← owner]
      exact current
    | emptied _ owner =>
      rw [owner] at current
      cases current
    | counted _ owner =>
      rw [← owner]
      exact current
    | taken ids _ owner =>
      rw [owner] at current
      have newest : before.generation family + 1 = generation := by simpa using current
      omega

end WalletEngine
