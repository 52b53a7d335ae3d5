import WalletEngine.Async.Region
import WalletEngine.Async.System

/-! # Routines that run alone

A routine that no other routine interrupts finds the state as it left it, so it
is a function of the state and of the host's world. For a routine that may fail
this function is a region over both, and the rules of regions evaluate it. It is
one of the schedules of a system: `System.Reachable.alone`. -/

namespace WalletEngine

variable {State World ε α β : Type} {host : Interface}

/-- How a host that makes no choices answers. -/
abbrev Responder (host : Interface) (World : Type) :=
  (call : host.Call) → World → host.Answer call × World

namespace Async

variable (respond : Responder host World)

def alone : Async State host α → State × World → α × (State × World)
  | .done value, now => (value, now)
  | .locked region next, (state, world) =>
    alone (next (region state).1) ((region state).2, world)
  | .await call next, (state, world) =>
    alone (next (respond call world).1) (state, (respond call world).2)

theorem alone_bind (routine : Async State host α) (next : α → Async State host β)
    (now : State × World) :
    (routine.bind next).alone respond now =
      (next (routine.alone respond now).1).alone respond (routine.alone respond now).2 := by
  induction routine generalizing now with
  | done value => rfl
  | locked region rest ih => exact ih _ _
  | await call rest ih => exact ih _ _

end Async

namespace Fallible

variable (respond : Responder host World)

/-- The routine as a region over the state and the world. -/
def alone (routine : Fallible State host ε α) : Region (State × World) ε α :=
  Async.alone respond routine

@[simp] theorem alone_bind (routine : Fallible State host ε α)
    (next : α → Fallible State host ε β) :
    (routine >>= next).alone respond =
      (routine.alone respond >>= fun value => (next value).alone respond) := by
  funext now
  rw [Region.bind_apply]
  unfold alone
  rw [bind_eq, Async.alone_bind]
  rcases Async.alone respond routine now with ⟨_ | value, after⟩
  · rfl
  · rfl

end Fallible

namespace System

variable {S : System} {client routine : Nat}

/-- A configuration in which a routine has run to its end and nothing else has happened. -/
structure Finished (S : System) (client routine : Nat) (value : S.Value) (state : S.State)
    (world : S.World) (config : S.Config) : Prop where
  alive : config.clients client = some state
  world : config.world = world
  returned : config.history.head? = some (.returned client routine value)

theorem Config.step_advance {config : S.Config} {body : Async S.State S.host S.Value}
    {state : S.State} (running : config.routines routine = some (client, body))
    (alive : config.clients client = some state) (choice : S.Choice) :
    config.step (.advance routine choice) =
      config.advance client routine state choice body := by
  simp only [Config.step, running, alive]

/-- A system in which only one routine is advanced ends as the routine does alone. -/
theorem Reachable.alone {respond : Responder S.host S.World} (idle : S.Choice)
    (answers : ∀ world call, ∃ choice, S.respond world call choice = some (respond call world))
    {body : Async S.State S.host S.Value} {start config : S.Config} {state : S.State}
    (reached : Reachable (fun _ _ => True) start config)
    (running : config.routines routine = some (client, body))
    (alive : config.clients client = some state) :
    ∃ final, Reachable (fun _ _ => True) start final ∧
      Finished S client routine (body.alone respond (state, config.world)).1
        (body.alone respond (state, config.world)).2.1
        (body.alone respond (state, config.world)).2.2 final := by
  induction body generalizing config state with
  | done value =>
    exact ⟨_, .step reached (Config.step_advance running alive idle) rfl trivial, alive, rfl, rfl⟩
  | locked region rest ih =>
    have next : Reachable (fun _ _ => True) start _ :=
      .step reached (Config.step_advance running alive idle) rfl trivial
    have finished := ih _ next (Function.update_self ..) (Function.update_self ..)
    exact finished
  | await call rest ih =>
    obtain ⟨choice, answered⟩ := answers config.world call
    have stepped := Config.step_advance running alive choice
    simp only [Config.advance, answered] at stepped
    have next : Reachable (fun _ _ => True) start _ := .step reached stepped rfl trivial
    have finished := ih _ next (Function.update_self ..) alive
    exact finished

end System

end WalletEngine
