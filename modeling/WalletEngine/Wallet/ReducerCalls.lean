import WalletEngine.Wallet.Reducer

/-! # The calls of the send reducer

Every method of the workflow as one step, whether it succeeds or fails. What a step can do is
said once, by `SendWorkflow.Effect`. -/

namespace WalletEngine

variable (codec : JournalCodec)

/-- A method of the workflow with its arguments. -/
inductive SendCall where
  | begin
  | journalLoaded (record : Option (JournalRecord codec.Payload))
  | freshAccountLoaded (account : FreshSendAccount)
  | preparedAccountLoaded (account : FreshSendAccount)
  | authorizationSucceeded
  | transferPrepared (prepared : PreparedTransfer)
  | journalPersisted (result : JournalCompareExchangeResult codec.Payload)
  | submissionStarted
  | submissionSucceeded (providerReference : Option String)
  | submissionUnknown (diagnostic : String)
  | submissionRejected (diagnostic : String)
  | cancel

/-- What a call returns; two methods have no directive. -/
abbrev SendOutcome := Except SendWorkflowError (Option (SendDirective codec))

variable {codec}

namespace SendCall

def region : SendCall codec → Reducer (Option (SendDirective codec))
  | .begin => some <$> SendWorkflow.begin codec
  | .journalLoaded record => some <$> SendWorkflow.journalLoaded codec record
  | .freshAccountLoaded account => some <$> SendWorkflow.freshAccountLoaded codec account
  | .preparedAccountLoaded account => (fun _ => none) <$> SendWorkflow.preparedAccountLoaded account
  | .authorizationSucceeded => some <$> SendWorkflow.authorizationSucceeded codec
  | .transferPrepared prepared => some <$> SendWorkflow.transferPrepared codec prepared
  | .journalPersisted result => some <$> SendWorkflow.journalPersisted codec result
  | .submissionStarted => (fun _ => none) <$> SendWorkflow.submissionStarted
  | .submissionSucceeded providerReference =>
    some <$> SendWorkflow.submissionSucceeded codec providerReference
  | .submissionUnknown diagnostic => some <$> SendWorkflow.submissionUnknown codec diagnostic
  | .submissionRejected diagnostic => some <$> SendWorkflow.submissionRejected codec diagnostic
  | .cancel => some <$> SendWorkflow.cancel codec

/-- The event of the stage table that a call stands for. -/
def event (workflow : SendWorkflow) : SendCall codec → SendEvent
  | .begin => .begin
  | .journalLoaded _ => .journalLoaded
  | .freshAccountLoaded _ => .freshAccountLoaded
  | .preparedAccountLoaded _ => .preparedAccountLoaded
  | .authorizationSucceeded => .authorizationSucceeded
  | .transferPrepared _ => .transferPrepared
  | .journalPersisted result =>
    if result.applied then workflow.persistedEvent else .journalConflict
  | .submissionStarted => .submissionStarted
  | .submissionSucceeded _ => .submissionSucceeded
  | .submissionUnknown _ => .submissionUnknown
  | .submissionRejected _ => .submissionRejected
  | .cancel => .cancel

end SendCall

namespace SendWorkflow

/-- The outcome of a call that asks to persist the workflow: the directive with its record, or
the error that the record could not be made. -/
def persisting (workflow : SendWorkflow) : SendOutcome codec :=
  (workflow.persistMutation codec).map fun mutation => some (.persistJournal mutation)

/-- The workflow with the note of a submission's outcome. -/
def Noted (workflow : SendWorkflow) (call : SendCall codec) (next : SendWorkflow) : Prop :=
  (∃ providerReference, call = .submissionSucceeded providerReference ∧
    next = { workflow with stage := .submitted, providerReference, diagnostic := none }) ∨
  (∃ diagnostic, call = .submissionUnknown diagnostic ∧
    next = { workflow with
      stage := .submissionUnknown, diagnostic := some (boundedDiagnostic diagnostic) }) ∨
  ∃ diagnostic, call = .submissionRejected diagnostic ∧
    next = { workflow with
      stage := .failed, diagnostic := some (boundedDiagnostic diagnostic) }

/-- What an applied write of the workflow leads to. -/
inductive Issues (workflow : SendWorkflow) : SendStage → SendOutcome codec → Prop
  | submit (prepared : PreparedTransfer) : workflow.prepared = some prepared →
      workflow.stage = .persistingPrepared → workflow.kind = .external →
      Issues workflow .readyToSubmit (.ok (some (.submit prepared.signedBoc prepared.messageHash)))
  | handOff (prepared : PreparedTransfer) : workflow.prepared = some prepared →
      (workflow.stage = .persistingPrepared ∧ workflow.kind = .internal ∨
        workflow.stage = .handedOff) →
      Issues workflow .handedOff (.ok (some (.handOff prepared.signedBoc prepared.validUntil)))
  | unprepared (stage : SendStage) (error : SendWorkflowError) : workflow.prepared = none →
      (workflow.stage = .persistingPrepared ∨ workflow.stage = .handedOff) →
      Issues workflow stage (.error error)
  | finished : workflow.stage ∈ [SendStage.submissionUnknown, .submitted, .failed, .cancelled] →
      Issues workflow workflow.stage (.ok (some .finished))

/-- What a call can do. -/
inductive Effect (workflow : SendWorkflow) :
    SendCall codec → SendOutcome codec → SendWorkflow → Prop
  | refused (call : SendCall codec) (error : SendWorkflowError) :
      Effect workflow call (.error error) workflow
  | begun : workflow.stage = .validating →
      Effect workflow .begin (.ok (some (.loadJournal workflow.journalKey)))
        { workflow with stage := .loadingJournal }
  | loaded (record : Option (JournalRecord codec.Payload)) : workflow.stage = .loadingJournal →
      Effect workflow (.journalLoaded record) (.ok (some .fetchFreshAccount))
        { workflow with
          journalVersion := record.map (·.version), stage := .fetchingFreshAccount }
  | account (account : FreshSendAccount) : workflow.stage = .fetchingFreshAccount →
      Effect workflow (.freshAccountLoaded account)
        (({ workflow with freshAccount := some account, stage := .authorizing } :
          SendWorkflow).readSecretDirective codec |>.map some)
        { workflow with freshAccount := some account, stage := .authorizing }
  | preparedAccount (account : FreshSendAccount) : workflow.stage = .fetchingFreshAccount →
      Effect workflow (.preparedAccountLoaded account) (.ok none)
        { workflow with freshAccount := some account, stage := .preparing }
  | authorized (account : FreshSendAccount) : workflow.stage = .authorizing →
      Effect workflow .authorizationSucceeded
        (.ok (some (.prepareTransfer workflow.request account)))
        { workflow with stage := .preparing }
  | prepared (prepared : PreparedTransfer) (account : FreshSendAccount) :
      workflow.stage = .preparing → workflow.freshAccount = some account →
      workflow.preparedMatches account prepared = true →
      Effect workflow (.transferPrepared prepared)
        (persisting
          { workflow with prepared := some prepared, stage := .persistingPrepared })
        { workflow with prepared := some prepared, stage := .persistingPrepared }
  | persisted (result : JournalCompareExchangeResult codec.Payload) (stage : SendStage)
      (version : Nat) (outcome : SendOutcome codec) : result.applied = true →
      nextJournalVersion workflow.journalVersion = .ok version → Issues workflow stage outcome →
      Effect workflow (.journalPersisted result) outcome
        { workflow with journalVersion := some version, stage }
  | conflicted (result : JournalCompareExchangeResult codec.Payload) : result.applied = false →
      workflow.stage.isTerminal = false →
      Effect workflow (.journalPersisted result) (.error .journalConflict)
        { workflow with
          stage := .failed
          diagnostic := some (boundedDiagnostic "Another send operation changed the journal") }
  | started : workflow.stage = .readyToSubmit →
      Effect workflow .submissionStarted (.ok none) { workflow with stage := .submitting }
  | noted (call : SendCall codec) (next : SendWorkflow) : workflow.stage = .submitting →
      workflow.Noted call next → Effect workflow call next.persisting next
  | settled : workflow.stage.isTerminal = true →
      Effect workflow .cancel (.ok (some .finished)) workflow
  | dropped : workflow.stage.isTerminal = false → workflow.prepared = none →
      Effect workflow .cancel (.ok (some .finished)) { workflow with stage := .cancelled }
  | cancelled : workflow.stage.isTerminal = false → workflow.prepared ≠ none →
      Effect workflow .cancel (persisting { workflow with stage := .cancelled })
        { workflow with stage := .cancelled }

section Effects

variable {workflow : SendWorkflow} {event : SendEvent} {name : String}

theorem nextStage_of_some {stage : SendStage}
    (admitted : workflow.stage.transition event = some stage) :
    nextStage event name workflow = (.ok stage, workflow) := by
  rw [nextStage, Region.get_bind, admitted]
  rfl

theorem nextStage_of_none (refused : workflow.stage.transition event = none) :
    nextStage event name workflow =
      (.error (.invalidTransition workflow.stage name), workflow) := by
  rw [nextStage, Region.get_bind, refused]
  rfl

theorem applyEvent_of_some {stage : SendStage}
    (admitted : workflow.stage.transition event = some stage) :
    applyEvent event name workflow = (.ok (), { workflow with stage }) := by
  rw [applyEvent, Region.bind_of_ok (nextStage_of_some admitted)]
  rfl

theorem applyEvent_of_none (refused : workflow.stage.transition event = none) :
    applyEvent event name workflow =
      (.error (.invalidTransition workflow.stage name), workflow) := by
  rw [applyEvent, Region.bind_of_error (nextStage_of_none refused)]

/-- The stage from which a forward event leads on. -/
def SendEvent.origin : SendEvent → Option SendStage
  | .begin => some .validating
  | .journalLoaded => some .loadingJournal
  | .freshAccountLoaded | .preparedAccountLoaded => some .fetchingFreshAccount
  | .authorizationSucceeded => some .authorizing
  | .transferPrepared => some .preparing
  | .preparedJournalPersisted | .internalMessageJournalPersisted => some .persistingPrepared
  | .submissionStarted => some .readyToSubmit
  | .submissionSucceeded | .submissionUnknown | .submissionRejected => some .submitting
  | .terminalJournalPersisted | .journalConflict | .cancel => none

theorem transition_origin {stage reached origin : SendStage}
    (forward : SendEvent.origin event = some origin)
    (admitted : stage.transition event = some reached) : stage = origin := by
  cases event <;> cases forward <;> cases stage <;> cases admitted <;> rfl

theorem persistDirective_apply :
    some <$> persistDirective codec =
      fun workflow : SendWorkflow => (workflow.persisting, workflow) := by
  funext workflow
  rw [Region.map_apply, persistDirective, Region.get_bind, persisting]
  cases made : workflow.persistMutation codec with
  | error error => rw [Region.bind_of_error (Region.lift_apply _ _)]; rfl
  | ok mutation => rw [Region.bind_of_ok (Region.lift_apply _ _)]; rfl

/-- A forward event is refused, or it leads from its origin to its target. -/
theorem forward_cases (workflow : SendWorkflow) (event : SendEvent) {origin target : SendStage}
    (starts : SendEvent.origin event = some origin) (leads : SendEvent.target event = some target) :
    workflow.stage.transition event = none ∨
      workflow.stage = origin ∧ workflow.stage.transition event = some target := by
  cases admitted : workflow.stage.transition event with
  | none => exact .inl rfl
  | some stage =>
    rw [transition_target leads admitted]
    exact .inr ⟨transition_origin starts admitted, rfl⟩

/-- The three outcomes of a submission. -/
theorem effect_noted {call : SendCall codec} {target : SendStage}
    {note : SendWorkflow → SendWorkflow}
    (body : call.region =
      some <$> (do applyEvent event name; modify note; persistDirective codec))
    (starts : SendEvent.origin event = some .submitting)
    (leads : SendEvent.target event = some target)
    (noted : workflow.Noted call (note { workflow with stage := target })) :
    workflow.Effect call (call.region workflow).1 (call.region workflow).2 := by
  rw [body, Region.map_apply]
  rcases forward_cases workflow event starts leads with refused | ⟨origin, admitted⟩
  · rw [Region.bind_of_error (applyEvent_of_none refused)]
    exact .refused _ _
  · rw [Region.bind_of_ok (applyEvent_of_some admitted), Region.modify_bind, ← Region.map_apply,
      persistDirective_apply]
    exact .noted call _ origin noted

/-- Where an applied write leads: the prepared record becomes the committed one, and a terminal
record stays what it is. -/
theorem persisted_cases {stage : SendStage}
    (admitted : workflow.stage.transition workflow.persistedEvent = some stage) :
    workflow.stage = .persistingPrepared ∧ workflow.kind = .external ∧ stage = .readyToSubmit ∨
      workflow.stage = .persistingPrepared ∧ workflow.kind = .internal ∧ stage = .handedOff ∨
      stage = workflow.stage ∧
        stage ∈ [SendStage.submissionUnknown, .submitted, .failed, .cancelled, .handedOff] := by
  by_cases persisting : workflow.stage = .persistingPrepared
  · rw [persistedEvent, if_pos persisting, persisting] at admitted
    cases kind : workflow.kind with
    | external =>
      rw [kind] at admitted
      exact .inl ⟨persisting, rfl, (Option.some.inj admitted).symm⟩
    | internal =>
      rw [kind] at admitted
      exact .inr (.inl ⟨persisting, rfl, (Option.some.inj admitted).symm⟩)
  · rw [persistedEvent, if_neg persisting] at admitted
    refine .inr (.inr ?_)
    cases reached : workflow.stage <;> rw [reached] at admitted <;> cases admitted <;> simp

theorem effect_journalPersisted (result : JournalCompareExchangeResult codec.Payload) :
    workflow.Effect (.journalPersisted result)
      ((SendCall.journalPersisted result).region workflow).1
      ((SendCall.journalPersisted result).region workflow).2 := by
  rw [SendCall.region, Region.map_apply, journalPersisted]
  cases applied : result.applied with
  | false =>
    simp only [Bool.not_false, if_true]
    cases ended : workflow.stage.isTerminal with
    | true =>
      have refused : workflow.stage.transition .journalConflict = none := by
        cases stage : workflow.stage <;> rw [stage] at ended <;> first | rfl | cases ended
      rw [Region.bind_of_error (applyEvent_of_none refused)]
      exact .refused _ _
    | false =>
      have admitted : workflow.stage.transition .journalConflict = some .failed := by
        cases stage : workflow.stage <;> rw [stage] at ended <;> first | rfl | cases ended
      rw [Region.bind_of_ok (applyEvent_of_some admitted), Region.modify_bind]
      exact .conflicted result applied ended
  | true =>
    simp only [Bool.not_true, Bool.false_eq_true, if_false]
    rw [Region.get_bind]
    cases admitted : workflow.stage.transition workflow.persistedEvent with
    | none =>
      rw [Region.bind_of_error (nextStage_of_none admitted)]
      exact .refused _ _
    | some stage =>
      rw [Region.bind_of_ok (nextStage_of_some admitted)]
      cases versioned : nextJournalVersion workflow.journalVersion with
      | error error =>
        rw [Region.bind_of_error (Region.lift_apply _ _)]
        exact .refused _ _
      | ok version =>
        rw [Region.bind_of_ok (Region.lift_apply _ _), Region.set_bind]
        have cases := persisted_cases admitted
        clear admitted
        obtain ⟨_, _, _, kind, _, origin, _, prepared, _, _, _⟩ := workflow
        rcases cases with ⟨starts, kind, rfl⟩ | ⟨starts, kind, rfl⟩ | ⟨rfl, terminal⟩
        · cases prepared with
          | none =>
            exact .persisted result _ _ _ applied versioned
              (.unprepared _ _ rfl (.inl starts))
          | some prepared =>
            exact .persisted result _ _ _ applied versioned
              (.submit prepared rfl starts kind)
        · cases prepared with
          | none =>
            exact .persisted result _ _ _ applied versioned
              (.unprepared _ _ rfl (.inl starts))
          | some prepared =>
            exact .persisted result _ _ _ applied versioned
              (.handOff prepared rfl (.inl ⟨starts, kind⟩))
        · cases stage with
          | handedOff =>
            cases prepared with
            | none =>
              exact .persisted result _ _ _ applied versioned
                (.unprepared _ _ rfl (.inr rfl))
            | some prepared =>
              exact .persisted result _ _ _ applied versioned
                (.handOff prepared rfl (.inr rfl))
          | submissionUnknown | submitted | failed | cancelled =>
            exact .persisted result _ _ _ applied versioned (.finished (by simp))
          | _ => simp at terminal

theorem effect_cancel :
    workflow.Effect .cancel ((SendCall.cancel : SendCall codec).region workflow).1
      ((SendCall.cancel : SendCall codec).region workflow).2 := by
  have admitted : workflow.stage.transition .cancel = some workflow.stage.afterCancellation := by
    cases workflow.stage <;> rfl
  rw [SendCall.region, Region.map_apply, cancel, Region.get_bind,
    Region.bind_of_ok (nextStage_of_some admitted)]
  cases ended : workflow.stage.isTerminal with
  | true =>
    have same : workflow.stage.afterCancellation = workflow.stage := by
      rw [SendStage.afterCancellation, if_pos ended]
    rw [if_pos same]
    exact .settled ended
  | false =>
    have other : workflow.stage.afterCancellation = .cancelled := by
      rw [SendStage.afterCancellation, if_neg (by rw [ended]; exact Bool.false_ne_true)]
    have differs : SendStage.cancelled ≠ workflow.stage := by
      intro same
      rw [← same] at ended
      cases ended
    rw [other, if_neg differs, Region.set_bind]
    by_cases present : workflow.prepared.isSome = true
    · rw [if_pos present, ← Region.map_apply, persistDirective_apply]
      exact .cancelled ended (Option.isSome_iff_ne_none.mp present)
    · rw [if_neg present]
      exact .dropped ended (Option.not_isSome_iff_eq_none.mp present)

/-- Every call does one of these things. -/
theorem region_effect (call : SendCall codec) :
    workflow.Effect call (call.region workflow).1 (call.region workflow).2 := by
  cases call with
  | begin =>
    rw [SendCall.region, Region.map_apply, begin]
    rcases forward_cases workflow .begin rfl rfl with refused | ⟨origin, admitted⟩
    · rw [Region.bind_of_error (applyEvent_of_none refused)]
      exact .refused _ _
    · rw [Region.bind_of_ok (applyEvent_of_some admitted), Region.get_bind]
      exact .begun origin
  | journalLoaded record =>
    rw [SendCall.region, Region.map_apply, journalLoaded]
    rcases forward_cases workflow .journalLoaded rfl rfl with refused | ⟨origin, admitted⟩
    · rw [Region.bind_of_error (nextStage_of_none refused)]
      exact .refused _ _
    · rw [Region.bind_of_ok (nextStage_of_some admitted), Region.get_bind]
      cases record with
      | none => exact .loaded none origin
      | some record =>
        dsimp only
        cases decoded : decodeOwnedRecord codec record workflow.recordId workflow.source with
        | error error =>
          rw [Region.bind_of_error (Region.lift_apply _ _)]
          exact .refused _ _
        | ok durable =>
          rw [Region.bind_of_ok (Region.lift_apply _ _), Region.ite_apply]
          split
          · exact .loaded (some record) origin
          · exact .refused _ _
  | freshAccountLoaded account =>
    rw [SendCall.region, Region.map_apply, freshAccountLoaded]
    rcases forward_cases workflow .freshAccountLoaded rfl rfl with refused | ⟨origin, admitted⟩
    · rw [Region.bind_of_error (nextStage_of_none refused)]
      exact .refused _ _
    · rw [Region.bind_of_ok (nextStage_of_some admitted), Region.ite_apply]
      split
      · exact .refused _ _
      · exact .account account origin
  | preparedAccountLoaded account =>
    rw [SendCall.region, Region.map_apply, preparedAccountLoaded]
    rcases forward_cases workflow .preparedAccountLoaded rfl rfl with refused | ⟨origin, admitted⟩
    · rw [Region.bind_of_error (nextStage_of_none refused)]
      exact .refused _ _
    · rw [Region.bind_of_ok (nextStage_of_some admitted), Region.ite_apply]
      split
      · exact .refused _ _
      · exact .preparedAccount account origin
  | authorizationSucceeded =>
    rw [SendCall.region, Region.map_apply, authorizationSucceeded]
    rcases forward_cases workflow .authorizationSucceeded rfl rfl with
      refused | ⟨origin, admitted⟩
    · rw [Region.bind_of_error (nextStage_of_none refused)]
      exact .refused _ _
    · rw [Region.bind_of_ok (nextStage_of_some admitted), Region.get_bind]
      clear admitted
      obtain ⟨_, _, _, _, _, _, account, _, _, _, _⟩ := workflow
      cases account with
      | none => exact .refused _ _
      | some account => exact .authorized account origin
  | transferPrepared prepared =>
    rw [SendCall.region, Region.map_apply, transferPrepared]
    rcases forward_cases workflow .transferPrepared rfl rfl with refused | ⟨origin, admitted⟩
    · rw [Region.bind_of_error (nextStage_of_none refused)]
      exact .refused _ _
    · rw [Region.bind_of_ok (nextStage_of_some admitted), Region.get_bind]
      cases validated : workflow.validatePrepared prepared with
      | error error =>
        rw [Region.bind_of_error (Region.lift_apply _ _)]
        exact .refused _ _
      | ok _ =>
        obtain ⟨account, loaded, accepted⟩ := validatePrepared_ok validated
        rw [Region.bind_of_ok (Region.lift_apply _ _), Region.set_bind, ← Region.map_apply,
          persistDirective_apply]
        exact .prepared prepared account origin loaded accepted
  | journalPersisted result => exact effect_journalPersisted result
  | submissionStarted =>
    rw [SendCall.region, Region.map_apply, submissionStarted]
    rcases forward_cases workflow .submissionStarted rfl rfl with refused | ⟨origin, admitted⟩
    · rw [applyEvent_of_none refused]
      exact .refused _ _
    · rw [applyEvent_of_some admitted]
      exact .started origin
  | submissionSucceeded providerReference =>
    exact effect_noted rfl rfl rfl (.inl ⟨providerReference, rfl, rfl⟩)
  | submissionUnknown diagnostic =>
    exact effect_noted rfl rfl rfl (.inr (.inl ⟨diagnostic, rfl, rfl⟩))
  | submissionRejected diagnostic =>
    exact effect_noted rfl rfl rfl (.inr (.inr ⟨diagnostic, rfl, rfl⟩))
  | cancel => exact effect_cancel

end Effects

end SendWorkflow

section Sound

/-- Nothing is prepared in the first stages. -/
def SendStage.isEarly : SendStage → Bool
  | .validating | .loadingJournal | .fetchingFreshAccount | .authorizing | .preparing => true
  | _ => false

/-- What is true of a workflow however it was called: it is still about what it was made for, and
what it holds as prepared was made for the account it loaded. -/
structure SendWorkflow.Sound (first workflow : SendWorkflow) : Prop where
  fixed : workflow.recordId = first.recordId ∧ workflow.source = first.source ∧
    workflow.request = first.request ∧ workflow.kind = first.kind
  early : workflow.stage.isEarly = true → workflow.prepared = none
  unprepared : workflow.prepared = none →
    workflow.stage.isEarly = true ∨ workflow.stage = .failed ∨ workflow.stage = .cancelled
  matched : ∀ prepared ∈ workflow.prepared, ∃ account, workflow.freshAccount = some account ∧
    workflow.preparedMatches account prepared = true
  unconfirmed : workflow.stage ≠ .confirmed

namespace SendWorkflow.Sound

variable {first workflow next : SendWorkflow}

theorem start (fresh : first.stage = .validating) (unprepared : first.prepared = none) :
    Sound first first where
  fixed := ⟨rfl, rfl, rfl, rfl⟩
  early _ := unprepared
  unprepared _ := .inl (by rw [fresh]; rfl)
  matched _ known := by rw [unprepared] at known; cases known
  unconfirmed := by rw [fresh]; nofun

/-- From one early stage to another. -/
theorem advance (sound : Sound first workflow) {stage : SendStage}
    {account : Option FreshSendAccount} {version : Option Nat}
    (origin : workflow.stage.isEarly = true) (target : stage.isEarly = true) :
    Sound first { workflow with stage, freshAccount := account, journalVersion := version } where
  fixed := sound.fixed
  early _ := sound.early origin
  unprepared _ := .inl target
  matched _ known := by
    change workflow.prepared = _ at known
    rw [sound.early origin] at known
    cases known
  unconfirmed := by rintro ⟨⟩; cases target

/-- From where something is prepared to where nothing is early: the stage, the notes and the
version change, and nothing else. -/
theorem later (sound : Sound first workflow) {stage : SendStage} {version : Option Nat}
    {providerReference diagnostic : Option String}
    (target : stage.isEarly = false ∧ stage ≠ .confirmed)
    (unprepared : workflow.prepared = none → stage = .failed ∨ stage = .cancelled) :
    Sound first { workflow with
      stage, journalVersion := version, providerReference, diagnostic } where
  fixed := sound.fixed
  early isEarly := absurd isEarly (by rw [target.1]; exact Bool.false_ne_true)
  unprepared absent := .inr (unprepared absent)
  matched := sound.matched
  unconfirmed := target.2

theorem prepared_ne_none (sound : Sound first workflow)
    (running : workflow.stage.isEarly = false ∧ workflow.stage ≠ .failed ∧
      workflow.stage ≠ .cancelled) : workflow.prepared ≠ none := by
  intro absent
  rcases sound.unprepared absent with early | failed | cancelled
  · rw [running.1] at early
    cases early
  · exact running.2.1 failed
  · exact running.2.2 cancelled

/-- Every call keeps a workflow sound. -/
theorem step (sound : Sound first workflow) {call : SendCall codec} {outcome : SendOutcome codec}
    (effect : workflow.Effect call outcome next) : Sound first next := by
  cases effect with
  | refused | settled => exact sound
  | begun origin | loaded _ origin | account _ origin | preparedAccount _ origin
  | authorized _ origin => exact sound.advance (by rw [origin]; rfl) rfl
  | prepared prepared account origin loaded accepted =>
    refine ⟨sound.fixed, nofun, nofun, ?_, nofun⟩
    rintro _ ⟨⟩
    exact ⟨account, loaded, accepted⟩
  | persisted result stage version _ applied versioned issues =>
    cases issues with
    | submit prepared known origin external =>
      exact sound.later ⟨rfl, nofun⟩ (fun absent => nomatch known.symm.trans absent)
    | handOff prepared known origin =>
      exact sound.later ⟨rfl, nofun⟩ (fun absent => nomatch known.symm.trans absent)
    | unprepared _ error absent origin =>
      refine absurd absent (sound.prepared_ne_none ?_)
      rcases origin with origin | origin <;> rw [origin] <;> exact ⟨rfl, nofun, nofun⟩
    | finished ended =>
      have target : workflow.stage.isEarly = false := by
        cases stage : workflow.stage <;> simp_all [SendStage.isEarly]
      refine sound.later ⟨target, sound.unconfirmed⟩ fun absent => ?_
      exact (sound.unprepared absent).resolve_left (by rw [target]; exact Bool.false_ne_true)
  | conflicted => exact sound.later ⟨rfl, nofun⟩ (fun _ => .inl rfl)
  | started origin =>
    refine sound.later ⟨rfl, nofun⟩ fun absent => absurd absent (sound.prepared_ne_none ?_)
    rw [origin]
    exact ⟨rfl, nofun, nofun⟩
  | noted call next origin noted =>
    have present : workflow.prepared ≠ none := by
      refine sound.prepared_ne_none ?_
      rw [origin]
      exact ⟨rfl, nofun, nofun⟩
    rcases noted with ⟨_, rfl, rfl⟩ | ⟨_, rfl, rfl⟩ | ⟨_, rfl, rfl⟩ <;>
      exact sound.later ⟨rfl, nofun⟩ (fun absent => absurd absent present)
  | dropped | cancelled => exact sound.later ⟨rfl, nofun⟩ (fun _ => .inr rfl)

end SendWorkflow.Sound

end Sound

end WalletEngine
