import WalletEngine.Async.Discipline
import Mathlib.Logic.Function.Basic

/-! # Systems of clients, routines and a host

A system runs any number of clients against one shared host. Each client holds
one locked state and any number of interleaved routines; a crash discards the
state and the routines of a client. The history records every step.

`Reachable.disciplined` abstracts from the routines: what a reachable
configuration shows of itself is reached by moves that only know the discipline
each routine obeys. -/

namespace WalletEngine

/-- The parts of a running system: how a client starts, what it can be asked to
do, and how the host responds to a call. `Choice` is the host's nondeterminism. -/
structure System where
  State : Type
  host : Interface
  Setup : Type
  Invocation : Type
  Value : Type
  World : Type
  Choice : Type
  fresh : Setup → State
  routine : Invocation → Async State host Value
  respond : World → (call : host.Call) → Choice → Option (host.Answer call × World)
  drift : World → Choice → Option World

namespace System

variable (S : System)

/-- One step of a system, as its history records it. -/
inductive Event where
  | launched (client : Nat) (state : S.State)
  | invoked (client routine : Nat) (invocation : S.Invocation)
  | observed (client routine : Nat) (observation : Observation S.State S.host)
  | returned (client routine : Nat) (value : S.Value)
  | crashed (client : Nat)
  | drifted (choice : S.Choice)

/-- What a configuration shows: everything but the suspended routines. -/
structure View where
  world : S.World
  clients : Nat → Option S.State
  history : List S.Event

structure Config extends View S where
  routines : Nat → Option (Nat × Async S.State S.host S.Value)
  launched : Nat
  invoked : Nat

inductive Action where
  | launch (setup : S.Setup)
  | invoke (client : Nat) (invocation : S.Invocation)
  | advance (routine : Nat) (choice : S.Choice)
  | crash (client : Nat)
  | drift (choice : S.Choice)

variable {S}

def initial (world : S.World) : S.Config where
  world := world
  clients := fun _ => none
  history := []
  routines := fun _ => none
  launched := 0
  invoked := 0

/-- The observations of one routine, newest first. -/
def traceOf (routine : Nat) (history : List S.Event) : Trace S.State S.host :=
  history.filterMap fun
    | .observed _ owner observation => if owner = routine then some observation else none
    | _ => none

def Config.advance (config : S.Config) (client routine : Nat) (state : S.State)
    (choice : S.Choice) : Async S.State S.host S.Value → Option S.Config
  | .done value => some { config with
      routines := Function.update config.routines routine none
      history := .returned client routine value :: config.history }
  | .locked region next => some { config with
      clients := Function.update config.clients client (some (region state).2)
      routines := Function.update config.routines routine (some (client, next (region state).1))
      history := .observed client routine (.locked state (region state).2) :: config.history }
  | .await call next =>
    match S.respond config.world call choice with
    | none => none
    | some (answer, world) => some { config with
        world := world
        routines := Function.update config.routines routine (some (client, next answer))
        history := .observed client routine (.answered call answer) :: config.history }

def Config.step (config : S.Config) : S.Action → Option S.Config
  | .launch setup => some { config with
      clients := Function.update config.clients config.launched (some (S.fresh setup))
      launched := config.launched + 1
      history := .launched config.launched (S.fresh setup) :: config.history }
  | .invoke client invocation =>
    match config.clients client with
    | none => none
    | some _ => some { config with
        routines := Function.update config.routines config.invoked
          (some (client, S.routine invocation))
        invoked := config.invoked + 1
        history := .invoked client config.invoked invocation :: config.history }
  | .advance routine choice =>
    match config.routines routine with
    | none => none
    | some (client, body) =>
      match config.clients client with
      | none => none
      | some state => config.advance client routine state choice body
  | .crash client => some { config with
      clients := Function.update config.clients client none
      history := .crashed client :: config.history }
  | .drift choice =>
    match S.drift config.world choice with
    | none => none
    | some world => some { config with
        world := world
        history := .drifted choice :: config.history }

/-- Execute a schedule, as long as every step passes a check. -/
def Config.run (check : S.View → S.Event → Bool) (config : S.Config) :
    List S.Action → Option S.Config
  | [] => some config
  | action :: rest =>
    match config.step action with
    | none => none
    | some next =>
      match next.history with
      | [] => none
      | event :: _ => if check config.toView event then next.run check rest else none

/-- The check of an unrestricted schedule. -/
def unchecked (_ : S.View) (_ : S.Event) : Bool := true

/-- The configurations reached from `start` by steps that `allowed` admits. It
judges a step by what the system shows before it and by the event it records. -/
inductive Reachable (allowed : S.View → S.Event → Prop) (start : S.Config) : S.Config → Prop
  | refl : Reachable allowed start start
  | step {config next : S.Config} {action : S.Action} {event : S.Event}
      (reached : Reachable allowed start config) (stepped : config.step action = some next)
      (recorded : next.history = event :: config.history)
      (permitted : allowed config.toView event) : Reachable allowed start next

section Disciplined

variable {allowed : S.View → S.Event → Prop} {start view : S.View} {event : S.Event}

variable (S) in
/-- What is known of the routine of each invocation: the discipline of its steps
and a condition on the value it returns. -/
structure Contract where
  rule : S.Invocation → Discipline S.State S.host
  post : S.Invocation → Trace S.State S.host → S.Value → Prop

variable (contract : S.Contract)

/-- The moves a system can make when its routines obey a contract. -/
inductive Move (view : S.View) : S.Event → S.View → Prop
  | launch (setup : S.Setup) (client : Nat) (unused : view.clients client = none)
      (unseen : ∀ state, .launched client state ∉ view.history) :
      Move view (.launched client (S.fresh setup)) { view with
        clients := Function.update view.clients client (some (S.fresh setup))
        history := .launched client (S.fresh setup) :: view.history }
  | invoke (client routine : Nat) (invocation : S.Invocation) (state : S.State)
      (alive : view.clients client = some state)
      (unseen : ∀ owner earlier, .invoked owner routine earlier ∉ view.history)
      (untouched : traceOf routine view.history = []) :
      Move view (.invoked client routine invocation) { view with
        history := .invoked client routine invocation :: view.history }
  | locked (client routine : Nat) (invocation : S.Invocation) (state after : S.State)
      (alive : view.clients client = some state)
      (started : .invoked client routine invocation ∈ view.history)
      (obeyed : (contract.rule invocation).region (traceOf routine view.history) state after) :
      Move view (.observed client routine (.locked state after)) { view with
        clients := Function.update view.clients client (some after)
        history := .observed client routine (.locked state after) :: view.history }
  | answered (client routine : Nat) (invocation : S.Invocation) (state : S.State)
      (call : S.host.Call) (answer : S.host.Answer call) (world : S.World) (choice : S.Choice)
      (alive : view.clients client = some state)
      (started : .invoked client routine invocation ∈ view.history)
      (obeyed : (contract.rule invocation).call (traceOf routine view.history) call)
      (responded : S.respond view.world call choice = some (answer, world)) :
      Move view (.observed client routine (.answered call answer)) { view with
        world := world
        history := .observed client routine (.answered call answer) :: view.history }
  | returned (client routine : Nat) (invocation : S.Invocation) (state : S.State)
      (value : S.Value) (alive : view.clients client = some state)
      (started : .invoked client routine invocation ∈ view.history)
      (obeyed : contract.post invocation (traceOf routine view.history) value) :
      Move view (.returned client routine value) { view with
        history := .returned client routine value :: view.history }
  | crash (client : Nat) : Move view (.crashed client) { view with
        clients := Function.update view.clients client none
        history := .crashed client :: view.history }
  | drift (choice : S.Choice) (world : S.World) (drifted : S.drift view.world choice = some world) :
      Move view (.drifted choice) { view with
        world := world
        history := .drifted choice :: view.history }

/-- The views reached by moves under a contract. -/
inductive Run (allowed : S.View → S.Event → Prop) (start : S.View) : S.View → Prop
  | refl : Run allowed start start
  | move {view next : S.View} {event : S.Event} (reached : Run allowed start view)
      (moved : Move contract view event next) (permitted : allowed view event) :
      Run allowed start next

/-- Whatever holds at the start and is kept by every permitted move holds in
every view reached. -/
theorem Run.invariant {contract : S.Contract} {property : S.View → Prop}
    (run : Run contract allowed start view) (base : property start)
    (kept : ∀ view event next, Run contract allowed start view → property view →
      Move contract view event next → allowed view event → property next) : property view := by
  induction run with
  | refl => exact base
  | move reached moved permitted ih => exact kept _ _ _ reached ih moved permitted

/-- Moves only add to the history. -/
theorem Move.history_eq {next : S.View} (moved : Move contract view event next) :
    next.history = event :: view.history := by
  cases moved <;> rfl

/-- A run reaches every event of its history by a move of its own. -/
theorem Run.origin {contract : S.Contract} {newer older : List S.Event}
    (run : Run contract allowed start view) (empty : start.history = [])
    (recorded : view.history = newer ++ event :: older) :
    ∃ earlier next, Run contract allowed start earlier ∧ Move contract earlier event next ∧
      allowed earlier event ∧ earlier.history = older := by
  induction run generalizing newer with
  | refl => simp [empty] at recorded
  | @move view next last reached moved permitted ih =>
    rw [moved.history_eq] at recorded
    cases newer with
    | nil =>
      simp only [List.nil_append, List.cons.injEq] at recorded
      obtain ⟨rfl, same⟩ := recorded
      exact ⟨view, next, reached, moved, permitted, same⟩
    | cons first rest =>
      simp only [List.cons_append, List.cons.injEq] at recorded
      exact ih recorded.2

/-- What an earlier view recorded is still recorded. -/
theorem subset_of_split {newer older history : List S.Event}
    (recorded : history = newer ++ event :: older) : older ⊆ history := by
  rw [recorded]
  exact fun other member => List.mem_append_right _ (List.mem_cons_of_mem _ member)

/-- A routine is invoked once. -/
theorem Run.invoked_unique {contract : S.Contract} {client owner routine : Nat}
    {invocation other : S.Invocation} (run : Run contract allowed start view)
    (empty : start.history = []) (first : .invoked client routine invocation ∈ view.history)
    (second : .invoked owner routine other ∈ view.history) :
    client = owner ∧ invocation = other := by
  induction run with
  | refl => simp [empty] at first
  | @move view next event reached moved permitted ih =>
    rw [moved.history_eq] at first second
    rcases List.mem_cons.mp first with same | before
    · subst same
      cases moved with
      | invoke _ _ _ state alive unseen untouched =>
        rcases List.mem_cons.mp second with same | before
        · cases same
          exact ⟨rfl, rfl⟩
        · exact absurd before (unseen _ _)
    · rcases List.mem_cons.mp second with same | before'
      · subst same
        cases moved with
        | invoke _ _ _ state alive unseen untouched => exact absurd before (unseen _ _)
      · exact ih before before'

/-- Only an invoked routine is observed. -/
theorem Run.started {contract : S.Contract} {client routine : Nat}
    {observation : Observation S.State S.host} (run : Run contract allowed start view)
    (empty : start.history = []) (observed : .observed client routine observation ∈ view.history) :
    ∃ invocation, .invoked client routine invocation ∈ view.history := by
  obtain ⟨newer, older, split⟩ := List.append_of_mem observed
  obtain ⟨earlier, next, _, moved, _, same⟩ := run.origin empty split
  have grows : earlier.history ⊆ view.history := same ▸ subset_of_split split
  cases moved with
  | locked _ _ invocation _ _ _ started _ => exact ⟨invocation, grows started⟩
  | answered _ _ invocation _ _ _ _ _ _ started _ _ => exact ⟨invocation, grows started⟩

end Disciplined

section Trace

variable {history : List S.Event} {client routine other : Nat}
variable {observation : Observation S.State S.host}

@[simp] theorem traceOf_nil : traceOf routine ([] : List S.Event) = [] := rfl

@[simp] theorem traceOf_invoked {invocation : S.Invocation} :
    traceOf routine (.invoked client other invocation :: history) = traceOf routine history := rfl

@[simp] theorem traceOf_observed_self :
    traceOf routine (.observed client routine observation :: history) =
      observation :: traceOf routine history := by
  simp [traceOf]

theorem traceOf_observed_of_ne (different : other ≠ routine) :
    traceOf routine (.observed client other observation :: history) =
      traceOf routine history := by
  simp [traceOf, different]

theorem mem_traceOf :
    observation ∈ traceOf routine history ↔
      ∃ client, .observed client routine observation ∈ history := by
  constructor
  · intro member
    obtain ⟨event, recorded, same⟩ := List.mem_filterMap.mp member
    cases event <;> simp only [reduceCtorEq, Option.ite_none_right_eq_some] at same
    obtain ⟨rfl, rfl⟩ := by simpa using same
    exact ⟨_, recorded⟩
  · rintro ⟨client, recorded⟩
    exact List.mem_filterMap.mpr ⟨_, recorded, by simp⟩

/-- A kind of observation that a routine only makes when it has not made it before
is made once. -/
theorem observed_unique (kind : Observation S.State S.host → Prop)
    {first second : Observation S.State S.host} {owner : Nat}
    (once : ∀ {newer older owner observation},
      history = newer ++ .observed owner routine observation :: older → kind observation →
        ∀ earlier ∈ traceOf routine older, ¬ kind earlier)
    (firstSeen : .observed client routine first ∈ history)
    (secondSeen : .observed owner routine second ∈ history)
    (firstKind : kind first) (secondKind : kind second) : first = second := by
  obtain ⟨newer, older, split⟩ := List.append_of_mem firstSeen
  rw [split] at secondSeen
  rcases List.mem_append.mp secondSeen with later | member
  · obtain ⟨newest, between, divided⟩ := List.append_of_mem later
    rw [divided, List.append_assoc, List.cons_append] at split
    refine absurd firstKind (once split secondKind first ?_)
    exact mem_traceOf.mpr ⟨client, List.mem_append_right _ List.mem_cons_self⟩
  · rcases List.mem_cons.mp member with same | earlier
    · cases same
      rfl
    · exact absurd secondKind (once split firstKind second (mem_traceOf.mpr ⟨owner, earlier⟩))

/-- The observations of a routine are those of its client. -/
theorem Run.observed_of_mem_traceOf {contract : S.Contract} {allowed : S.View → S.Event → Prop}
    {start view : S.View} {invocation : S.Invocation} (run : Run contract allowed start view)
    (empty : start.history = []) (invoked : .invoked client routine invocation ∈ view.history)
    (member : observation ∈ traceOf routine view.history) :
    .observed client routine observation ∈ view.history := by
  obtain ⟨owner, observed⟩ := mem_traceOf.mp member
  obtain ⟨other, started⟩ := run.started empty observed
  obtain ⟨rfl, _⟩ := run.invoked_unique empty invoked started
  exact observed

end Trace

section Clients

variable {client : Nat} {history : List S.Event}

/-- A lock region of a client: the routine that ran it, and the state before and
after it. -/
structure LockRegion (S : System) where
  routine : Nat
  before : S.State
  after : S.State

/-- The lock regions of one client, newest first. -/
def regionsOf (client : Nat) (history : List S.Event) : List (LockRegion S) :=
  history.filterMap fun
    | .observed owner routine (.locked before after) =>
      if owner = client then some ⟨routine, before, after⟩ else none
    | _ => none

theorem mem_regionsOf {region : LockRegion S} :
    region ∈ regionsOf client history ↔
      .observed client region.routine (.locked region.before region.after) ∈ history := by
  constructor
  · intro member
    obtain ⟨event, recorded, same⟩ := List.mem_filterMap.mp member
    split at same
    · split at same
      · rename_i owner
        subst owner
        cases same
        exact recorded
      · cases same
    · cases same
  · intro recorded
    exact List.mem_filterMap.mpr ⟨_, recorded, by simp⟩

variable {contract : S.Contract} {allowed : S.View → S.Event → Prop} {start view : S.View}

/-- What is known of one client: it was never launched, or `property` relates its
lock regions to its latest state. -/
def ClientKnown (property : List (LockRegion S) → S.State → Prop) (view : S.View)
    (client : Nat) : Prop :=
  regionsOf client view.history = [] ∧ view.clients client = none ∨
    (∃ state, .launched client state ∈ view.history) ∧
      ∃ state, property (regionsOf client view.history) state ∧
        ∀ alive, view.clients client = some alive → alive = state

/-- What a move means for one client: its launch, one of its lock regions, its
crash, or nothing. -/
inductive ClientMove (contract : S.Contract) (client : Nat) (view : S.View) (event : S.Event)
    (next : S.View) : Prop
  | launched (setup : S.Setup) (same : event = .launched client (S.fresh setup))
      (unused : view.clients client = none)
      (unseen : ∀ state, .launched client state ∉ view.history)
      (becomes : next.clients client = some (S.fresh setup))
  | region (routine : Nat) (invocation : S.Invocation) (before after : S.State)
      (same : event = .observed client routine (.locked before after))
      (alive : view.clients client = some before) (becomes : next.clients client = some after)
      (started : .invoked client routine invocation ∈ view.history)
      (obeyed : (contract.rule invocation).region (traceOf routine view.history) before after)
  | crashed (same : event = .crashed client) (becomes : next.clients client = none)
  | other (kept : next.clients client = view.clients client)
      (quiet : ∀ routine before after, event ≠ .observed client routine (.locked before after))

theorem Move.clientMove {event : S.Event} {next : S.View}
    (moved : Move contract view event next) (client : Nat) :
    ClientMove contract client view event next := by
  cases moved with
  | launch setup owner unused unseen =>
    by_cases same : owner = client
    · subst same
      exact .launched setup rfl unused unseen (Function.update_self ..)
    · exact .other (Function.update_of_ne (Ne.symm same) ..) nofun
  | locked owner routine invocation before after alive started obeyed =>
    by_cases same : owner = client
    · subst same
      exact .region routine invocation before after rfl alive (Function.update_self ..) started
        obeyed
    · refine .other (Function.update_of_ne (Ne.symm same) ..) fun other earlier later equal => ?_
      cases equal
      exact same rfl
  | crash owner =>
    by_cases same : owner = client
    · subst same
      exact .crashed rfl (Function.update_self ..)
    · exact .other (Function.update_of_ne (Ne.symm same) ..) nofun
  | invoke owner routine invocation state alive unseen untouched => exact .other rfl nofun
  | answered owner routine invocation state call answer world choice alive started obeyed
      responded => exact .other rfl nofun
  | returned owner routine invocation state value alive started obeyed => exact .other rfl nofun
  | drift choice world drifted => exact .other rfl nofun

theorem regionsOf_cons_of_ne {event : S.Event}
    (quiet : ∀ routine before after, event ≠ .observed client routine (.locked before after)) :
    regionsOf client (event :: history) = regionsOf client history := by
  refine List.filterMap_cons_none ?_
  split
  · rename_i owner routine before after
    split
    · rename_i same
      exact absurd (same ▸ rfl) (quiet routine before after)
    · rfl
  · rfl

@[simp] theorem regionsOf_region {routine : Nat} {before after : S.State} :
    regionsOf client (.observed client routine (.locked before after) :: history) =
      ⟨routine, before, after⟩ :: regionsOf client history := by
  simp [regionsOf]

/-- Whatever holds of a fresh client and is kept by each of its lock regions holds
throughout the life of a client, whatever the others do. -/
theorem Run.client_invariant {property : List (LockRegion S) → S.State → Prop}
    (run : Run contract allowed start view) (empty : start.history = [])
    (unlaunched : ∀ client, start.clients client = none)
    (fresh : ∀ setup, property [] (S.fresh setup))
    (kept : ∀ view client routine invocation before after, Run contract allowed start view →
      .invoked client routine invocation ∈ view.history →
      property (regionsOf client view.history) before →
      (contract.rule invocation).region (traceOf routine view.history) before after →
      property (⟨routine, before, after⟩ :: regionsOf client view.history) after)
    (client : Nat) : ClientKnown property view client := by
  induction run with
  | refl => exact .inl ⟨by rw [empty]; rfl, unlaunched client⟩
  | @move view next event reached moved permitted known =>
    have history := moved.history_eq
    have grows : view.history ⊆ next.history := by
      rw [history]
      exact fun event member => List.mem_cons_of_mem _ member
    cases moved.clientMove client with
    | launched setup same unused unseen becomes =>
      rcases known with ⟨quiet, _⟩ | ⟨⟨state, launched⟩, _⟩
      · refine .inr ⟨⟨S.fresh setup, ?_⟩, S.fresh setup, ?_, ?_⟩
        · rw [history, same]
          exact List.mem_cons_self
        · rw [history, regionsOf_cons_of_ne (by rw [same]; nofun), quiet]
          exact fresh setup
        · intro alive found
          exact Option.some.inj (found.symm.trans becomes)
      · exact absurd launched (unseen state)
    | region routine invocation before after same alive becomes started obeyed =>
      rcases known with ⟨_, absent⟩ | ⟨⟨state, launched⟩, latest, holds, unique⟩
      · rw [alive] at absent
        cases absent
      · obtain rfl := unique before alive
        refine .inr ⟨⟨state, grows launched⟩, after, ?_, ?_⟩
        · rw [history, same, regionsOf_region]
          exact kept view client routine invocation before after reached started holds obeyed
        · intro other found
          exact Option.some.inj (found.symm.trans becomes)
    | crashed same becomes =>
      have quiet : regionsOf client next.history = regionsOf client view.history := by
        rw [history, same]
        exact regionsOf_cons_of_ne nofun
      rcases known with ⟨none, _⟩ | ⟨⟨state, launched⟩, latest, holds, _⟩
      · exact .inl ⟨quiet.trans none, becomes⟩
      · refine .inr ⟨⟨state, grows launched⟩, latest, quiet ▸ holds, fun alive found => ?_⟩
        rw [becomes] at found
        cases found
    | other same quiet =>
      rcases known with ⟨none, absent⟩ | ⟨⟨state, launched⟩, latest, holds, unique⟩
      · refine .inl ⟨?_, same.trans absent⟩
        rw [history, regionsOf_cons_of_ne quiet, none]
      · refine .inr ⟨⟨state, grows launched⟩, latest, ?_, ?_⟩
        · rw [history, regionsOf_cons_of_ne quiet]
          exact holds
        · rw [same]
          exact unique

theorem ClientKnown.alive {property : List (LockRegion S) → S.State → Prop} {state : S.State}
    (known : ClientKnown property view client) (alive : view.clients client = some state) :
    property (regionsOf client view.history) state := by
  rcases known with ⟨_, absent⟩ | ⟨_, latest, holds, unique⟩
  · rw [alive] at absent
    cases absent
  · rw [unique state alive]
    exact holds

end Clients

section Abstraction

variable {allowed : S.View → S.Event → Prop}

/-- The bookkeeping that relates a configuration to the moves of its view. -/
private structure Sound (contract : S.Contract) (config : S.Config) : Prop where
  obeying : ∀ {routine client body}, config.routines routine = some (client, body) →
    routine < config.invoked ∧ ∃ invocation, .invoked client routine invocation ∈ config.history ∧
      body.Obeys (contract.rule invocation) (contract.post invocation)
        (traceOf routine config.history)
  unseen : ∀ {client routine invocation}, .invoked client routine invocation ∈ config.history →
    routine < config.invoked
  untouched : ∀ {routine}, config.invoked ≤ routine → traceOf routine config.history = []
  unused : ∀ {client}, config.launched ≤ client → config.clients client = none
  unlaunched : ∀ {client state}, .launched client state ∈ config.history → client < config.launched

variable {contract : S.Contract} {config next : S.Config} {event : S.Event}

private theorem Sound.alive_lt (sound : Sound contract config) {client : Nat} {state : S.State}
    (alive : config.clients client = some state) : client < config.launched := by
  by_contra beyond
  rw [sound.unused (Nat.le_of_not_lt beyond)] at alive
  cases alive

/-- Recording a step of a running routine leaves the other routines as they are. -/
private theorem Sound.observe (sound : Sound contract config) {client routine : Nat}
    {body : Async S.State S.host S.Value} {invocation : S.Invocation}
    {observation : Observation S.State S.host} {clients : Nat → Option S.State} {world : S.World}
    (running : routine < config.invoked)
    (started : .invoked client routine invocation ∈ config.history)
    (obeys : body.Obeys (contract.rule invocation) (contract.post invocation)
      (observation :: traceOf routine config.history))
    (unused : ∀ {client}, config.launched ≤ client → clients client = none) :
    Sound contract { config with
      world := world
      clients := clients
      routines := Function.update config.routines routine (some (client, body))
      history := .observed client routine observation :: config.history } where
  obeying {other owner rest} found := by
    by_cases same : other = routine
    · subst same
      simp only [Function.update_self, Option.some.injEq, Prod.mk.injEq] at found
      obtain ⟨rfl, rfl⟩ := found
      exact ⟨running, invocation, List.mem_cons_of_mem _ started, by simpa using obeys⟩
    · simp only [Function.update_of_ne same] at found
      obtain ⟨bounded, earlier, recorded, holds⟩ := sound.obeying found
      refine ⟨bounded, earlier, List.mem_cons_of_mem _ recorded, ?_⟩
      rwa [traceOf_observed_of_ne (Ne.symm same)]
  unseen recorded := sound.unseen ((List.mem_cons.mp recorded).resolve_left nofun)
  untouched {other} beyond := by
    change config.invoked ≤ other at beyond
    rw [traceOf_observed_of_ne (by omega)]
    exact sound.untouched beyond
  unused := unused
  unlaunched recorded := sound.unlaunched ((List.mem_cons.mp recorded).resolve_left nofun)

private theorem Sound.advance (sound : Sound contract config) {client routine : Nat}
    {state : S.State} {choice : S.Choice} {body : Async S.State S.host S.Value}
    (running : config.routines routine = some (client, body))
    (alive : config.clients client = some state)
    (stepped : config.advance client routine state choice body = some next)
    (recorded : next.history = event :: config.history) :
    Move contract config.toView event next.toView ∧ Sound contract next := by
  obtain ⟨bounded, invocation, started, obeys⟩ := sound.obeying running
  cases body with
  | done value =>
    cases stepped
    cases recorded
    refine ⟨.returned client routine invocation state value alive started obeys, ?_⟩
    refine { sound with obeying := fun {other owner rest} found => ?_, unseen := ?_,
                        unlaunched := ?_ }
    · by_cases same : other = routine
      · subst same
        simp at found
      · simp only [Function.update_of_ne same] at found
        obtain ⟨below, earlier, member, holds⟩ := sound.obeying found
        exact ⟨below, earlier, List.mem_cons_of_mem _ member, holds⟩
    · exact fun member => sound.unseen ((List.mem_cons.mp member).resolve_left nofun)
    · exact fun member => sound.unlaunched ((List.mem_cons.mp member).resolve_left nofun)
  | locked region rest =>
    cases stepped
    cases recorded
    obtain ⟨allowed, continues⟩ := obeys state
    refine ⟨.locked client routine invocation state _ alive started allowed, ?_⟩
    refine sound.observe bounded started continues fun {other} beyond => ?_
    have older := sound.alive_lt alive
    rw [Function.update_of_ne (by omega)]
    exact sound.unused beyond
  | await call rest =>
    rcases responded : S.respond config.world call choice with _ | ⟨answer, world⟩
    · simp [Config.advance, responded] at stepped
    · simp only [Config.advance, responded, Option.some.injEq] at stepped
      subst stepped
      cases recorded
      exact ⟨.answered client routine invocation state call answer world choice alive started
        obeys.1 responded, sound.observe bounded started (obeys.2 answer) sound.unused⟩

private theorem Sound.step (sound : Sound contract config) {action : S.Action}
    (obeys : ∀ client routine invocation, event = .invoked client routine invocation →
      (S.routine invocation).Obeys (contract.rule invocation) (contract.post invocation) [])
    (stepped : config.step action = some next)
    (recorded : next.history = event :: config.history) :
    Move contract config.toView event next.toView ∧ Sound contract next := by
  cases action with
  | launch setup =>
    cases stepped
    cases recorded
    refine ⟨.launch setup config.launched (sound.unused le_rfl)
      fun state member => (sound.unlaunched member).ne rfl, ?_⟩
    refine { obeying := fun found => ?_, unseen := fun member => ?_, untouched := sound.untouched,
             unused := fun {client} beyond => ?_, unlaunched := fun {client state} member => ?_ }
    · obtain ⟨bounded, invocation, started, holds⟩ := sound.obeying found
      exact ⟨bounded, invocation, List.mem_cons_of_mem _ started, holds⟩
    · exact sound.unseen ((List.mem_cons.mp member).resolve_left nofun)
    · change config.launched + 1 ≤ client at beyond
      change Function.update config.clients config.launched _ client = none
      rw [Function.update_of_ne (by omega)]
      exact sound.unused (by omega)
    · rcases List.mem_cons.mp member with same | earlier
      · cases same
        exact Nat.lt_succ_self _
      · exact (sound.unlaunched earlier).trans (Nat.lt_succ_self _)
  | invoke client invocation =>
    rcases alive : config.clients client with _ | state
    · simp [Config.step, alive] at stepped
    · simp only [Config.step, alive, Option.some.injEq] at stepped
      subst stepped
      cases recorded
      refine ⟨.invoke client config.invoked invocation state alive
        (fun owner earlier member => (sound.unseen member).ne rfl) (sound.untouched le_rfl), ?_⟩
      refine { obeying := fun {routine owner body} found => ?_,
               unseen := fun {owner routine earlier} member => ?_,
               untouched := fun {routine} beyond => ?_, unused := sound.unused,
               unlaunched := fun member => ?_ }
      · by_cases same : routine = config.invoked
        · subst same
          simp only [Function.update_self, Option.some.injEq, Prod.mk.injEq] at found
          obtain ⟨rfl, rfl⟩ := found
          refine ⟨Nat.lt_succ_self _, invocation, List.mem_cons_self, ?_⟩
          rw [traceOf_invoked, sound.untouched le_rfl]
          exact obeys client config.invoked invocation rfl
        · simp only [Function.update_of_ne same] at found
          obtain ⟨bounded, earlier, started, holds⟩ := sound.obeying found
          exact ⟨bounded.trans (Nat.lt_succ_self _), earlier,
            List.mem_cons_of_mem _ started, holds⟩
      · rcases List.mem_cons.mp member with same | before
        · cases same
          exact Nat.lt_succ_self _
        · exact (sound.unseen before).trans (Nat.lt_succ_self _)
      · exact sound.untouched (Nat.le_of_succ_le beyond)
      · exact sound.unlaunched ((List.mem_cons.mp member).resolve_left nofun)
  | advance routine choice =>
    rcases running : config.routines routine with _ | ⟨client, body⟩
    · simp [Config.step, running] at stepped
    · rcases alive : config.clients client with _ | state
      · simp [Config.step, running, alive] at stepped
      · simp only [Config.step, running, alive] at stepped
        exact sound.advance running alive stepped recorded
  | crash client =>
    cases stepped
    cases recorded
    refine ⟨.crash client, ?_⟩
    refine { obeying := fun found => ?_, unseen := fun member => ?_, untouched := sound.untouched,
             unused := fun {other} beyond => ?_, unlaunched := fun member => ?_ }
    · obtain ⟨bounded, invocation, started, holds⟩ := sound.obeying found
      exact ⟨bounded, invocation, List.mem_cons_of_mem _ started, holds⟩
    · exact sound.unseen ((List.mem_cons.mp member).resolve_left nofun)
    · by_cases same : other = client
      · simp [same]
      · simpa [Function.update_of_ne same] using sound.unused beyond
    · exact sound.unlaunched ((List.mem_cons.mp member).resolve_left nofun)
  | drift choice =>
    rcases drifted : S.drift config.world choice with _ | world
    · simp [Config.step, drifted] at stepped
    · simp only [Config.step, drifted, Option.some.injEq] at stepped
      subst stepped
      cases recorded
      refine ⟨.drift choice world drifted, ?_⟩
      refine { obeying := fun found => ?_, unseen := fun member => ?_,
               untouched := sound.untouched, unused := sound.unused,
               unlaunched := fun member => ?_ }
      · obtain ⟨bounded, invocation, started, holds⟩ := sound.obeying found
        exact ⟨bounded, invocation, List.mem_cons_of_mem _ started, holds⟩
      · exact sound.unseen ((List.mem_cons.mp member).resolve_left nofun)
      · exact sound.unlaunched ((List.mem_cons.mp member).resolve_left nofun)

private theorem Reachable.simulated {allowed : S.View → S.Event → Prop} {world : S.World}
    (reached : Reachable allowed (initial world) config)
    (obeys : ∀ view client routine invocation,
      allowed view (.invoked client routine invocation) →
      (S.routine invocation).Obeys (contract.rule invocation) (contract.post invocation) []) :
    Run contract allowed (initial world).toView config.toView ∧ Sound contract config := by
  induction reached with
  | refl =>
    refine ⟨.refl, ?_⟩
    constructor <;> simp [initial]
  | @step config next action event reached stepped recorded permitted ih =>
    obtain ⟨run, sound⟩ := ih
    have ⟨moved, kept⟩ := sound.step
      (fun client routine invocation same => obeys _ client routine invocation (same ▸ permitted))
      stepped recorded
    exact ⟨.move run moved permitted, kept⟩

/-- Every reachable configuration shows a view that is reached by moves under
the contract, provided the routine of every permitted invocation obeys it. -/
theorem Reachable.disciplined {world : S.World} (reached : Reachable allowed (initial world) config)
    (obeys : ∀ view client routine invocation,
      allowed view (.invoked client routine invocation) →
      (S.routine invocation).Obeys (contract.rule invocation) (contract.post invocation) []) :
    Run contract allowed (initial world).toView config.toView :=
  (reached.simulated obeys).1

/-- The suspended routine of a reachable configuration still obeys its contract. -/
theorem Reachable.suspended {world : S.World} {client routine : Nat}
    {body : Async S.State S.host S.Value} (reached : Reachable allowed (initial world) config)
    (obeys : ∀ view client routine invocation,
      allowed view (.invoked client routine invocation) →
      (S.routine invocation).Obeys (contract.rule invocation) (contract.post invocation) [])
    (running : config.routines routine = some (client, body)) :
    ∃ invocation, .invoked client routine invocation ∈ config.history ∧
      body.Obeys (contract.rule invocation) (contract.post invocation)
        (traceOf routine config.history) :=
  ((reached.simulated obeys).2.obeying running).2

private theorem Config.step_history {action : S.Action}
    (stepped : config.step action = some next) :
    ∃ event, next.history = event :: config.history := by
  cases action with
  | launch setup => cases stepped; exact ⟨_, rfl⟩
  | invoke client invocation =>
    simp only [Config.step] at stepped
    split at stepped
    · cases stepped
    · cases stepped; exact ⟨_, rfl⟩
  | advance routine choice =>
    simp only [Config.step] at stepped
    split at stepped
    · cases stepped
    · split at stepped
      · cases stepped
      · rename_i body _ _ _ _
        cases body with
        | done value => cases stepped; exact ⟨_, rfl⟩
        | locked region rest => cases stepped; exact ⟨_, rfl⟩
        | await call rest =>
          simp only [Config.advance] at stepped
          split at stepped
          · cases stepped
          · cases stepped; exact ⟨_, rfl⟩
  | crash client => cases stepped; exact ⟨_, rfl⟩
  | drift choice =>
    simp only [Config.step] at stepped
    split at stepped
    · cases stepped
    · cases stepped; exact ⟨_, rfl⟩

/-- A schedule whose steps all pass a check runs the system within what the check
admits. -/
theorem Reachable.of_run {check : S.View → S.Event → Bool} {start : S.Config}
    {actions : List S.Action} (admits : ∀ view event, check view event = true → allowed view event)
    (ran : start.run check actions = some config) : Reachable allowed start config := by
  suffices ∀ middle, Reachable allowed start middle → middle.run check actions = some config →
      Reachable allowed start config from this start .refl ran
  clear ran
  induction actions with
  | nil =>
    intro middle reached ran
    cases ran
    exact reached
  | cons action rest ih =>
    intro middle reached ran
    rcases stepped : middle.step action with _ | later
    · simp [Config.run, stepped] at ran
    · obtain ⟨event, recorded⟩ := Config.step_history stepped
      simp only [Config.run, stepped, recorded] at ran
      split at ran
      · rename_i passed
        exact ih later (.step reached stepped recorded (admits _ _ passed)) ran
      · cases ran

theorem Reachable.of_unchecked {start : S.Config} {actions : List S.Action}
    (ran : start.run unchecked actions = some config) :
    Reachable (fun _ _ => True) start config :=
  .of_run (fun _ _ _ => trivial) ran

end Abstraction

end System

end WalletEngine
