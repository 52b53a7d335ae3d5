import Mathlib.Control.Monad.Basic

/-! # Asynchronous routines

An asynchronous routine is a tree of lock regions and awaited host calls. A
lock region is atomic: it maps the shared state of the client to a result and a
new state. At an awaited call the routine is suspended, and every other routine
of the client may run before the answer arrives.

Nothing in this file refers to a particular client or host. -/

namespace WalletEngine

/-- The calls a routine can make to its host, with the type of each answer. -/
structure Interface where
  Call : Type
  Answer : Call → Type

/-- A routine over a shared `State`. Its paths are finite, its branching over
states and answers is unrestricted. -/
inductive Async (State : Type) (host : Interface) (Value : Type) : Type 1 where
  | done (value : Value)
  | locked {Result : Type} (region : State → Result × State)
      (next : Result → Async State host Value)
  | await (call : host.Call) (next : host.Answer call → Async State host Value)

namespace Async

variable {State : Type} {host : Interface} {α β γ ε : Type}

protected def bind (routine : Async State host α) (next : α → Async State host β) :
    Async State host β :=
  match routine with
  | .done value => next value
  | .locked region rest => .locked region fun result => (rest result).bind next
  | .await call rest => .await call fun answer => (rest answer).bind next

instance : Monad (Async State host) where
  pure := .done
  bind := Async.bind

/-- Run one atomic region under the client's lock. -/
def atomically (region : State → α × State) : Async State host α :=
  .locked region .done

/-- Suspend on one host call. -/
def request (call : host.Call) : Async State host (host.Answer call) :=
  .await call .done

end Async

/-- A region that may fail. Changes made before the failure are kept, as they
are when a function returns early while it holds the lock. -/
abbrev Region (State ε α : Type) := ExceptT ε (StateM State) α

/-- A routine that may fail with an error of type `ε`. -/
abbrev Fallible (State : Type) (host : Interface) (ε α : Type) :=
  ExceptT ε (Async State host) α

namespace Fallible

variable {State : Type} {host : Interface} {α β ε : Type}

def locked (region : Region State ε α) : Fallible State host ε α :=
  Async.atomically region

def await (call : host.Call) : Fallible State host ε (host.Answer call) :=
  ExceptT.lift (Async.request call)

/-- Continue with the outcome of a routine, as a `match` on its result does. -/
def outcome (routine : Fallible State host ε α) : Fallible State host ε (Except ε α) :=
  ExceptT.lift routine.run

theorem bind_eq (routine : Fallible State host ε α) (next : α → Fallible State host ε β) :
    (routine >>= next) = Async.bind routine (ExceptT.bindCont next) := rfl

end Fallible

end WalletEngine
