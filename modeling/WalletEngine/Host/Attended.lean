import WalletEngine.Async.Alone
import WalletEngine.Host.Journal

/-! # A host that keeps the journal for itself

A host whose journal nobody else writes and that answers every call without a
choice of its own. A client operation that runs alone over it is a region over
the client state and the desk, on which the journal lies. -/

namespace WalletEngine

variable {P : Platform}

variable (P) in
/-- The journal, and the exchanges that were asked of it, newest first. -/
structure Desk where
  slots : JournalSlots P
  writes : List (JournalCompareExchange P.codec.Payload)

/-- The desk after an exchange that was applied. -/
def Desk.store (desk : Desk P) (mutation : JournalCompareExchange P.codec.Payload) : Desk P where
  slots := Function.update desk.slots mutation.key (mutation.replacement :: desk.slots mutation.key)
  writes := mutation :: desk.writes

variable (P) in
/-- What the host says to the calls that do not concern the journal. -/
structure Attendant where
  provider : HttpRequest → Except DomainError P.serde.Body
  secret : Except ProtectedSecretHostError P.crypto.Secret
  woken : Bool

namespace Attendant

def respond (attendant : Attendant P) : Responder (walletHost P) (Desk P)
  | .loadJournal key, desk => (.ok (desk.slots key).head?, desk)
  | .compareExchangeJournal mutation, desk =>
    if (desk.slots mutation.key).head?.map (·.version) = mutation.expectedVersion then
      (.ok ⟨true, some mutation.replacement⟩, desk.store mutation)
    else (.ok ⟨false, (desk.slots mutation.key).head?⟩,
      { desk with writes := mutation :: desk.writes })
  | .readProtectedSecret _, desk => (attendant.secret, desk)
  | .execute request, desk => (attendant.provider request, desk)
  | .cancel _, desk => ((), desk)
  | .notified, desk => (attendant.woken, desk)

end Attendant

variable (P) in
/-- The host of all attendants; who answers is chosen call by call. -/
def attendedHost : JournalHost P where
  World := Desk P
  Choice := Attendant P
  respond := fun desk call attendant => some (attendant.respond call desk)
  drift := fun _ _ => none
  slots := Desk.slots
  loads {desk key attendant answer after} responded := by
    cases responded
    exact ⟨rfl, fun _ told => (Except.ok.inj told).symm⟩
  exchanges {desk mutation attendant answer after} responded := by
    by_cases current : (desk.slots mutation.key).head?.map (·.version) = mutation.expectedVersion
    · simp only [Attendant.respond, current, if_true, Option.some.injEq] at responded
      cases responded
      exact .applied _ rfl current
    · simp only [Attendant.respond, current, if_false, Option.some.injEq] at responded
      cases responded
      exact .refused _ rfl rfl
  spares {desk call attendant answer after} other responded := by
    cases call with
    | loadJournal key => cases other
    | compareExchangeJournal mutation => cases other
    | _ => cases responded; rfl
  drifts drifted := by cases drifted

/-- Whatever a public call comes to when it runs alone, a run of the system comes to. -/
theorem attended_reachable {start config : (attendedHost P).system.Config}
    {client routine : Nat} {call : PublicCall} {state : State} (attendant : Attendant P)
    (reached : System.Reachable (fun _ _ => True) start config)
    (running : config.routines routine = some (client, call.routine))
    (alive : config.clients client = some state) :
    ∃ final, System.Reachable (fun _ _ => True) start final ∧
      System.Finished _ client routine
        (call.routine.alone attendant.respond (state, config.world)).1
        (call.routine.alone attendant.respond (state, config.world)).2.1
        (call.routine.alone attendant.respond (state, config.world)).2.2 final :=
  reached.alone attendant (fun _ _ => ⟨attendant, rfl⟩) running alive

section Evaluation

variable {α : Type} (attendant : Attendant P) (state : State) (desk : Desk P)

/-- An operation that runs alone. -/
def Engine.solo (operation : Engine P α) : Region (State × Desk P) WalletClientError α :=
  Fallible.alone attendant.respond operation

namespace Engine

@[simp] theorem solo_bind {β : Type} (operation : Engine P α) (next : α → Engine P β) :
    (operation >>= next).solo attendant =
      (operation.solo attendant >>= fun value => (next value).solo attendant) :=
  Fallible.alone_bind _ _ _

theorem solo_withLock (region : Locked α) :
    (withLock region : Engine P α).solo attendant (state, desk) =
      ((region state).1, (region state).2, desk) := rfl

theorem solo_execute (request : HttpRequest) :
    (execute request : Engine P _).solo attendant (state, desk) =
      (.ok (attendant.provider request), state, desk) := rfl

theorem solo_loadJournal (key : JournalKey) :
    (loadJournal key : Engine P _).solo attendant (state, desk) =
      (.ok (.ok (desk.slots key).head?), state, desk) := rfl

theorem solo_compareExchangeJournal {mutation : JournalCompareExchange P.codec.Payload}
    (current : (desk.slots mutation.key).head?.map (·.version) = mutation.expectedVersion) :
    (compareExchangeJournal mutation : Engine P _).solo attendant (state, desk) =
      (.ok (.ok ⟨true, some mutation.replacement⟩), state, desk.store mutation) := by
  change (Except.ok (attendant.respond (.compareExchangeJournal mutation) desk).1, state,
    (attendant.respond (.compareExchangeJournal mutation) desk).2) = _
  rw [Attendant.respond, if_pos current]
  rfl

end Engine

end Evaluation

end WalletEngine
