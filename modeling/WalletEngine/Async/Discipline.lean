import WalletEngine.Async.Basic
import Mathlib.Data.List.Infix

/-! # Disciplines of asynchronous routines

A discipline restricts the calls and lock regions of a routine by what the
routine itself has observed so far. `Async.Obeys` checks a routine against a
discipline for every answer the host may give and every state the lock may
reveal, so it says nothing about the other routines and holds under all of
their interleavings.

Traces list the newest observation first. -/

namespace WalletEngine

/-- What a routine observes at one of its steps. -/
inductive Observation (State : Type) (host : Interface) where
  | locked (before after : State)
  | answered (call : host.Call) (answer : host.Answer call)

/-- The observations of one routine, newest first. -/
abbrev Trace (State : Type) (host : Interface) := List (Observation State host)

/-- Which calls and lock regions a routine may perform after a given trace. -/
structure Discipline (State : Type) (host : Interface) where
  call : Trace State host → host.Call → Prop
  region : Trace State host → State → State → Prop

variable {State : Type} {host : Interface} {α β ε : Type}

namespace Async

/-- Every step the routine can take after `trace` is allowed, and every value it
can return satisfies `post`. -/
def Obeys (rule : Discipline State host) (post : Trace State host → α → Prop) :
    Trace State host → Async State host α → Prop
  | trace, .done value => post trace value
  | trace, .locked region next => ∀ state, rule.region trace state (region state).2 ∧
      Obeys rule post (.locked state (region state).2 :: trace) (next (region state).1)
  | trace, .await call next => rule.call trace call ∧
      ∀ answer, Obeys rule post (.answered call answer :: trace) (next answer)

variable {rule : Discipline State host} {trace : Trace State host}
  {post stronger : Trace State host → α → Prop} {final : Trace State host → β → Prop}

theorem Obeys.mono {routine : Async State host α} (obeys : routine.Obeys rule stronger trace)
    (weaken : ∀ later value, trace <:+ later → stronger later value → post later value) :
    routine.Obeys rule post trace := by
  induction routine generalizing trace with
  | done value => exact weaken trace value (List.suffix_refl trace) obeys
  | locked region next ih =>
    intro state
    refine ⟨(obeys state).1, ih _ (obeys state).2 ?_⟩
    exact fun later value grows => weaken later value ((List.suffix_cons ..).trans grows)
  | await call next ih =>
    refine ⟨obeys.1, fun answer => ih _ (obeys.2 answer) ?_⟩
    exact fun later value grows => weaken later value ((List.suffix_cons ..).trans grows)

/-- The rule of sequencing: the continuation is checked after every trace and
value that the first routine can end with. -/
theorem Obeys.bind {routine : Async State host α} {next : α → Async State host β}
    (first : routine.Obeys rule post trace)
    (rest : ∀ later value, trace <:+ later → post later value →
      (next value).Obeys rule final later) :
    (routine.bind next).Obeys rule final trace := by
  induction routine generalizing trace with
  | done value => exact rest trace value (List.suffix_refl trace) first
  | locked region continue_ ih =>
    intro state
    refine ⟨(first state).1, ih _ (first state).2 ?_⟩
    exact fun later value grows => rest later value ((List.suffix_cons ..).trans grows)
  | await call continue_ ih =>
    refine ⟨first.1, fun answer => ih _ (first.2 answer) ?_⟩
    exact fun later value grows => rest later value ((List.suffix_cons ..).trans grows)

/-- A discipline that allows everything is obeyed. -/
theorem obeys_of_forall (calls : ∀ trace call, rule.call trace call)
    (regions : ∀ trace before after, rule.region trace before after)
    (posts : ∀ trace value, post trace value) (routine : Async State host α) :
    routine.Obeys rule post trace := by
  induction routine generalizing trace with
  | done value => exact posts trace value
  | locked region next ih => exact fun state => ⟨regions _ _ _, ih _⟩
  | await call next ih => exact ⟨calls _ _, fun answer => ih _⟩

end Async

namespace Fallible

variable {rule : Discipline State host} {trace : Trace State host}

/-- `Async.Obeys` with separate conditions for success and failure. -/
def Obeys (rule : Discipline State host) (success : Trace State host → α → Prop)
    (failure : Trace State host → ε → Prop) (trace : Trace State host)
    (routine : Fallible State host ε α) : Prop :=
  Async.Obeys rule (fun later result =>
    match result with
    | .ok value => success later value
    | .error error => failure later error) trace routine

variable {success stronger : Trace State host → α → Prop}
  {failure fault : Trace State host → ε → Prop} {final : Trace State host → β → Prop}

theorem Obeys.mono {routine : Fallible State host ε α}
    (obeys : routine.Obeys rule stronger fault trace)
    (weaken : ∀ later value, trace <:+ later → stronger later value → success later value)
    (weakenFault : ∀ later error, trace <:+ later → fault later error → failure later error) :
    routine.Obeys rule success failure trace := by
  refine Async.Obeys.mono obeys fun later result grows holds => ?_
  cases result with
  | ok value => exact weaken later value grows holds
  | error error => exact weakenFault later error grows holds

theorem Obeys.bind {routine : Fallible State host ε α} {next : α → Fallible State host ε β}
    (first : routine.Obeys rule success failure trace)
    (rest : ∀ later value, trace <:+ later → success later value →
      (next value).Obeys rule final failure later) :
    (routine >>= next).Obeys rule final failure trace := by
  refine Async.Obeys.bind first fun later result grows holds => ?_
  cases result with
  | ok value => exact rest later value grows holds
  | error error => exact holds

theorem obeys_pure {value : α} (holds : success trace value) :
    (pure value : Fallible State host ε α).Obeys rule success failure trace := holds

theorem obeys_throw {error : ε} (holds : failure trace error) :
    (throw error : Fallible State host ε α).Obeys rule success failure trace := holds

theorem obeys_await {call : host.Call} {success : Trace State host → host.Answer call → Prop}
    (allowed : rule.call trace call)
    (answered : ∀ answer, success (.answered call answer :: trace) answer) :
    (await call : Fallible State host ε _).Obeys rule success failure trace :=
  ⟨allowed, answered⟩

theorem obeys_locked {region : Region State ε α}
    (allowed : ∀ state, rule.region trace state (region state).2)
    (onSuccess : ∀ state value after, region state = (.ok value, after) →
      success (.locked state after :: trace) value)
    (onFailure : ∀ state error after, region state = (.error error, after) →
      failure (.locked state after :: trace) error) :
    (locked region : Fallible State host ε α).Obeys rule success failure trace := by
  intro state
  refine ⟨allowed state, ?_⟩
  rcases happened : region state with ⟨result, after⟩
  cases result with
  | ok value => exact onSuccess state value after happened
  | error error => exact onFailure state error after happened

theorem obeys_outcome {routine : Fallible State host ε α}
    {success : Trace State host → Except ε α → Prop}
    (obeys : routine.Obeys rule (fun later value => success later (.ok value))
      (fun later error => success later (.error error)) trace) :
    (outcome routine).Obeys rule success failure trace := by
  refine Async.Obeys.bind obeys fun later result _ holds => ?_
  cases result with
  | ok value => exact holds
  | error error => exact holds

end Fallible

end WalletEngine
