import WalletEngine.Async.System

/-! # Invariants between the routines of one client

The routines of a client share its state and nothing else. What holds of the state, of each
routine in that state and of any two routines is kept by every run once each step of one
routine keeps it. -/

namespace WalletEngine

namespace System

variable {S : System} {contract : S.Contract} {admitted : S.State → Prop}
variable {client routine : Nat} {invocation : S.Invocation} {state : S.State}

/-- A condition on the state of a client, one on the trace of each of its routines in that
state, and one on the traces of two of them, that the steps of each routine keep. A lock
region is taken into account if it begins in an admitted state. -/
structure Fleet (contract : S.Contract) (admitted : S.State → Prop) where
  state : S.State → Prop
  routine : Trace S.State S.host → S.State → Prop
  pair : Trace S.State S.host → Trace S.State S.host → Prop
  symm : ∀ {first second}, pair first second → pair second first
  fresh : ∀ setup, state (S.fresh setup)
  idle : ∀ {current}, state current → routine [] current
  apart : ∀ {current other}, routine other current → pair [] other
  locked : ∀ {invocation log before after},
    (contract.rule invocation).region log before after → admitted before → state before →
    routine log before → state after ∧ routine (.locked before after :: log) after
  beside : ∀ {invocation log other before after},
    (contract.rule invocation).region log before after → admitted before → state before →
    routine log before → routine other before → pair log other →
    routine other after ∧ pair (.locked before after :: log) other
  answered : ∀ {invocation log call answer current},
    (contract.rule invocation).call log call → state current → routine log current →
    routine (.answered call answer :: log) current
  overheard : ∀ {invocation log other call answer current},
    (contract.rule invocation).call log call → state current → routine log current →
    routine other current → pair log other → pair (.answered call answer :: log) other

/-- What a fleet says about one client. -/
structure Fleet.Holds (fleet : Fleet contract admitted) (view : S.View) (client : Nat)
    (current : S.State) : Prop where
  state : fleet.state current
  routine : ∀ {routine invocation}, .invoked client routine invocation ∈ view.history →
    fleet.routine (traceOf routine view.history) current
  pair : ∀ {first second invocation other}, first ≠ second →
    .invoked client first invocation ∈ view.history →
    .invoked client second other ∈ view.history →
    fleet.pair (traceOf first view.history) (traceOf second view.history)

variable {allowed : S.View → S.Event → Prop} {start view : S.View}

/-- A routine belongs to a client that was launched. -/
theorem Run.launched_of_invoked (run : Run contract allowed start view) (empty : start.history = [])
    (unlaunched : ∀ client, start.clients client = none)
    (invoked : .invoked client routine invocation ∈ view.history) :
    ∃ state, .launched client state ∈ view.history := by
  obtain ⟨newer, older, split⟩ := List.append_of_mem invoked
  obtain ⟨earlier, next, reached, moved, _, same⟩ := run.origin empty split
  have grows : earlier.history ⊆ view.history := same ▸ subset_of_split split
  have known : ClientKnown (fun _ _ => True) earlier client :=
    reached.client_invariant empty unlaunched (fun _ => trivial)
      (fun _ _ _ _ _ _ _ _ _ _ => trivial) client
  cases moved with
  | invoke _ _ _ state alive unseen untouched =>
    rcases known with ⟨_, absent⟩ | ⟨⟨first, launched⟩, _⟩
    · rw [alive] at absent
      cases absent
    · exact ⟨first, grows launched⟩

/-- A step that leaves the traces and the state of a client alone. -/
theorem Fleet.Holds.of_quiet {fleet : Fleet contract admitted} {next : S.View}
    (holds : fleet.Holds view client state)
    (invoked : ∀ {routine invocation}, .invoked client routine invocation ∈ next.history →
      .invoked client routine invocation ∈ view.history)
    (same : ∀ {routine invocation}, .invoked client routine invocation ∈ view.history →
      traceOf routine next.history = traceOf routine view.history) :
    fleet.Holds next client state := by
  refine ⟨holds.state, fun member => ?_, fun distinct first second => ?_⟩
  · rw [same (invoked member)]
    exact holds.routine (invoked member)
  · rw [same (invoked first), same (invoked second)]
    exact holds.pair distinct (invoked first) (invoked second)

/-- A step of one routine, as far as it concerns the traces of its client. -/
theorem Fleet.Holds.observed {fleet : Fleet contract admitted} {before after : S.State}
    {observation : Observation S.State S.host} {world : S.World} {clients : Nat → Option S.State}
    (holds : fleet.Holds view client before)
    (started : .invoked client routine invocation ∈ view.history) (state : fleet.state after)
    (self : fleet.routine (observation :: traceOf routine view.history) after)
    (beside : ∀ {other}, fleet.routine other before →
      fleet.pair (traceOf routine view.history) other →
      fleet.routine other after ∧
      fleet.pair (observation :: traceOf routine view.history) other) :
    fleet.Holds ⟨world, clients, .observed client routine observation :: view.history⟩ client
      after := by
  have earlier : ∀ {other call}, .invoked client other call ∈
      .observed client routine observation :: view.history →
      .invoked client other call ∈ view.history := by
    intro other call member
    exact (List.mem_cons.mp member).resolve_left nofun
  have self_eq := @traceOf_observed_self S view.history client routine observation
  have other_eq : ∀ {other}, routine ≠ other →
      traceOf other (.observed client routine observation :: view.history) =
        traceOf other view.history := fun distinct => traceOf_observed_of_ne distinct
  have others : ∀ {other call}, routine ≠ other → .invoked client other call ∈ view.history →
      fleet.routine (traceOf other view.history) after ∧
        fleet.pair (observation :: traceOf routine view.history) (traceOf other view.history) := by
    intro other call distinct member
    exact beside (holds.routine member) (holds.pair distinct started member)
  refine ⟨state, fun {other call} member => ?_, fun {first second call third} distinct one two => ?_⟩
  · by_cases same : routine = other
    · subst same
      rw [self_eq]
      exact self
    · rw [other_eq same]
      exact (others same (earlier member)).1
  · by_cases same : routine = first
    · subst same
      rw [self_eq, other_eq distinct]
      exact (others distinct (earlier two)).2
    · by_cases last : routine = second
      · subst last
        rw [self_eq, other_eq same]
        exact fleet.symm (others same (earlier one)).2
      · rw [other_eq same, other_eq last]
        exact holds.pair distinct (earlier one) (earlier two)

/-- A routine that has just been invoked. -/
theorem Fleet.Holds.invoked {fleet : Fleet contract admitted} {owner : Nat}
    (holds : fleet.Holds view client state) (untouched : traceOf routine view.history = []) :
    fleet.Holds { view with history := .invoked owner routine invocation :: view.history } client
      state := by
  have known : ∀ {other call}, .invoked client other call ∈
      (.invoked owner routine invocation :: view.history : List S.Event) →
      other = routine ∨ .invoked client other call ∈ view.history := by
    intro other call member
    rcases List.mem_cons.mp member with same | earlier
    · cases same
      exact .inl rfl
    · exact .inr earlier
  have fits : ∀ {other call}, .invoked client other call ∈
      (.invoked owner routine invocation :: view.history : List S.Event) →
      fleet.routine (traceOf other view.history) state := by
    intro other call member
    rcases known member with rfl | earlier
    · rw [untouched]
      exact fleet.idle holds.state
    · exact holds.routine earlier
  refine ⟨holds.state, fits, fun {first second call third} distinct one two => ?_⟩
  change fleet.pair (traceOf first view.history) (traceOf second view.history)
  rcases known one with rfl | earlier
  · rw [untouched]
    exact fleet.apart (fits two)
  · rcases known two with rfl | older
    · rw [untouched]
      exact fleet.symm (fleet.apart (fits one))
    · exact holds.pair distinct earlier older

theorem Run.fleet (fleet : Fleet contract admitted) (run : Run contract allowed start view)
    (empty : start.history = []) (unlaunched : ∀ client, start.clients client = none)
    (permits : ∀ {view client routine before after},
      allowed view (.observed client routine (.locked before after)) → admitted before)
    (alive : view.clients client = some state) : fleet.Holds view client state := by
  induction run generalizing client state with
  | refl =>
    rw [unlaunched] at alive
    cases alive
  | @move view next event reached moved permitted ih =>
    cases moved with
    | launch setup owner unused unseen =>
      by_cases same : owner = client
      · subst same
        obtain rfl : S.fresh setup = state := by simpa using alive
        have uninvoked : ∀ {routine invocation}, .invoked owner routine invocation ∉
            (.launched owner (S.fresh setup) :: view.history : List S.Event) := by
          intro routine invocation member
          have earlier := (List.mem_cons.mp member).resolve_left nofun
          obtain ⟨first, launched⟩ := reached.launched_of_invoked empty unlaunched earlier
          exact unseen first launched
        exact ⟨fleet.fresh setup, fun member => absurd member uninvoked,
          fun _ member => absurd member uninvoked⟩
      · simp only [Function.update_of_ne (Ne.symm same)] at alive
        exact (ih alive).of_quiet (fun member => (List.mem_cons.mp member).resolve_left nofun)
          fun _ => rfl
    | invoke owner routine invocation current present unseen untouched =>
      exact (ih alive).invoked untouched
    | locked owner routine invocation before after present started obeyed =>
      by_cases same : owner = client
      · subst same
        obtain rfl : after = state := by simpa using alive
        have holds := ih present
        have self := holds.routine started
        have stepped := fleet.locked obeyed (permits permitted) holds.state self
        exact holds.observed started stepped.1 stepped.2 fun other =>
          fleet.beside obeyed (permits permitted) holds.state self other
      · simp only [Function.update_of_ne (Ne.symm same)] at alive
        refine (ih alive).of_quiet
          (fun member => (List.mem_cons.mp member).resolve_left nofun) fun member => ?_
        refine traceOf_observed_of_ne fun equal => same ?_
        subst equal
        exact (reached.invoked_unique empty started member).1
    | answered owner routine invocation current call answer world choice present started obeyed
        responded =>
      have holds := ih alive
      by_cases same : owner = client
      · subst same
        obtain rfl : current = state := Option.some.inj (present.symm.trans alive)
        have self := holds.routine started
        exact holds.observed started holds.state (fleet.answered obeyed holds.state self)
          fun other pair => ⟨other, fleet.overheard obeyed holds.state self other pair⟩
      · refine holds.of_quiet
          (fun member => (List.mem_cons.mp member).resolve_left nofun) fun member => ?_
        refine traceOf_observed_of_ne fun equal => same ?_
        subst equal
        exact (reached.invoked_unique empty started member).1
    | returned owner routine invocation current value present started obeyed =>
      exact (ih alive).of_quiet (fun member => (List.mem_cons.mp member).resolve_left nofun)
        fun _ => rfl
    | crash owner =>
      by_cases same : owner = client
      · subst same
        simp at alive
      · simp only [Function.update_of_ne (Ne.symm same)] at alive
        exact (ih alive).of_quiet (fun member => (List.mem_cons.mp member).resolve_left nofun)
          fun _ => rfl
    | drift choice world drifted =>
      exact (ih alive).of_quiet (fun member => (List.mem_cons.mp member).resolve_left nofun)
        fun _ => rfl

end System

end WalletEngine
