import WalletEngine.TonConnect.Rpc

/-! # The session reducer

The durable state of a session: its phase, the highest request identifier accepted from the
dApp and the last identifier given to a wallet event. Transitions prepare the next state and
leave the current one alone. -/

namespace WalletEngine

/-- A request identifier without leading zeros, ordered as a number of any size. -/
structure RpcRequestId where
  digits : String
  numeral : IsNumeral digits.toList
  deriving DecidableEq

/-- The failures of a transition. -/
inductive SessionStateError where
  | invalidRequestId | requestIdNotIncreasing | sessionNotConnected | invalidEventTransition
  | eventIdExhausted
  deriving DecidableEq

namespace RpcRequestId

def fromStr (value : String) : Except SessionStateError RpcRequestId :=
  if valid : validDecimal value = true then
    .ok ⟨String.ofList (trimZeros value.toList), by
      rw [String.toList_ofList]
      exact isNumeral_trimZeros (List.all_eq_true.mp (Bool.and_eq_true_iff.mp valid).2)⟩
  else .error .invalidRequestId

/-- Shorter identifiers come first, those of one length in lexicographic order. -/
instance : LT RpcRequestId where
  lt first second := numeralLt first.digits.toList second.digits.toList

instance (first second : RpcRequestId) : Decidable (first < second) :=
  inferInstanceAs (Decidable (numeralLt _ _))

/-- The number an identifier denotes. -/
def value (id : RpcRequestId) : Nat :=
  decimalValue id.digits.toList

theorem lt_iff {first second : RpcRequestId} : first < second ↔ first.value < second.value :=
  numeralLt_iff first.numeral second.numeral

theorem fromStr_value {text : String} {id : RpcRequestId} (parsed : fromStr text = .ok id) :
    id.value = decimalValue text.toList := by
  unfold fromStr at parsed
  split at parsed
  · cases parsed
    rw [value, String.toList_ofList, decimalValue_trimZeros]
  · cases parsed

theorem validDecimal_of_fromStr {text : String} {id : RpcRequestId}
    (parsed : fromStr text = .ok id) : validDecimal text = true := by
  unfold fromStr at parsed
  split at parsed
  · assumption
  · cases parsed

/-- A canonical text is read back as it stands. -/
theorem fromStr_digits (id : RpcRequestId) : fromStr id.digits = .ok id := by
  have valid : validDecimal id.digits = true := by
    have present := id.numeral.nonempty
    simp only [validDecimal, Bool.and_eq_true, List.all_eq_true]
    exact ⟨by simpa using present, id.numeral.digit⟩
  have trimmed : trimZeros id.digits.toList = id.digits.toList :=
    (isNumeral_trimZeros id.numeral.digit).eq_of_value id.numeral (decimalValue_trimZeros _)
  rw [fromStr, dif_pos valid]
  congr
  rw [trimmed, String.ofList_toList]

instance : Wire RpcRequestId where
  codec := .text (fun text => (fromStr text).toOption) digits fun id => by rw [fromStr_digits]; rfl
  present _ := rfl

instance : Floatless RpcRequestId := ⟨fun _ => rfl⟩

end RpcRequestId

section State

inductive WalletSessionPhase where
  | pendingConnect | connected | disconnected
  deriving DecidableEq

inductive WalletEventKind where
  | connect | connectError | disconnect
  deriving DecidableEq

def WalletSessionPhase.asStr : WalletSessionPhase → String
  | .pendingConnect => "pending_connect"
  | .connected => "connected"
  | .disconnected => "disconnected"

def WalletSessionPhase.decode (json : Json) : Except String WalletSessionPhase := do
  let name ← json.unitVariant
  if name == "pending_connect" then return .pendingConnect
  else if name == "connected" then return .connected
  else if name == "disconnected" then return .disconnected
  else .error "unknown variant"

instance : Wire WalletSessionPhase where
  codec :=
    { encode := fun phase => .str phase.asStr
      decode := WalletSessionPhase.decode
      refloat := fun _ => id
      decode_encode := fun change phase => by
        rw [Json.mapFloats_str]
        cases phase <;> rfl }
  present _ := rfl

instance : Floatless WalletSessionPhase := ⟨fun _ => rfl⟩

/-- The identifiers a phase allows: none before the connection, an event afterwards. -/
def validLifecycle (phase : WalletSessionPhase) (lastRequestId : Option RpcRequestId)
    (lastEventId : Option UInt64) : Bool :=
  match phase with
  | .pendingConnect => lastRequestId.isNone && lastEventId.isNone
  | .connected | .disconnected => lastEventId.isSome

structure WalletSessionState where
  phase : WalletSessionPhase
  lastRequestId : Option RpcRequestId
  lastEventId : Option UInt64
  lifecycle : validLifecycle phase lastRequestId lastEventId = true
  deriving DecidableEq

namespace WalletSessionState

def pendingConnect : WalletSessionState := ⟨.pendingConnect, none, none, rfl⟩

def tryFrom (parts : (WalletSessionPhase × Option RpcRequestId) × Option UInt64) :
    Except String WalletSessionState :=
  if lifecycle : validLifecycle parts.1.1 parts.1.2 parts.2 = true then
    .ok ⟨parts.1.1, parts.1.2, parts.2, lifecycle⟩
  else .error "persisted TON Connect session state violates lifecycle invariants"

instance : Wire WalletSessionState where
  codec := (((Fields.member "phase").both
    (Fields.nullable "last_request_id") (by decide)).both
    (Fields.nullable "last_event_id") (by decide)).object.refine tryFrom
      (fun state => ((state.phase, state.lastRequestId), state.lastEventId)) (fun _ => id)
      fun change state => by simp [tryFrom, state.lifecycle]
  present _ := rfl

instance : Floatless WalletSessionState := ⟨fun _ => rfl⟩

/-- A wallet event with its identifier and the state to persist before it is published. -/
structure PreparedWalletEvent where
  id : UInt64
  nextState : WalletSessionState

/-- An accepted request and the state to persist before it is processed. -/
structure PreparedAppRequest where
  requestId : RpcRequestId
  closesSession : Bool
  nextState : WalletSessionState

/-- The phases after the connection was decided. -/
abbrev SettledPhase := {phase : WalletSessionPhase // phase ≠ .pendingConnect}

def nextPhase : WalletSessionPhase → WalletEventKind → Except SessionStateError SettledPhase
  | .pendingConnect, .connect => .ok ⟨.connected, by decide⟩
  | .pendingConnect, .connectError => .ok ⟨.disconnected, by decide⟩
  | .connected, .disconnect => .ok ⟨.disconnected, by decide⟩
  | _, _ => .error .invalidEventTransition

theorem nextPhase_connect {phase : WalletSessionPhase} {settled : SettledPhase}
    (allowed : nextPhase phase .connect = .ok settled) :
    phase = .pendingConnect ∧ settled.1 = .connected := by
  cases phase <;> cases allowed
  exact ⟨rfl, rfl⟩

theorem nextPhase_closing {phase : WalletSessionPhase} {kind : WalletEventKind}
    {settled : SettledPhase} (allowed : nextPhase phase kind = .ok settled)
    (closing : kind ≠ .connect) : settled.1 = .disconnected := by
  cases kind with
  | connect => exact absurd rfl closing
  | connectError => cases phase <;> cases allowed; rfl
  | disconnect => cases phase <;> cases allowed; rfl

def nextEventId : Option UInt64 → Except SessionStateError UInt64
  | some previous =>
    if previous.toNat + 1 < u64Bound then .ok (previous + 1) else .error .eventIdExhausted
  | none => .ok 0

theorem validLifecycle_settled {phase : WalletSessionPhase} (settled : phase ≠ .pendingConnect)
    (lastRequestId : Option RpcRequestId) {lastEventId : Option UInt64}
    (allocated : lastEventId.isSome = true) :
    validLifecycle phase lastRequestId lastEventId = true := by
  cases phase with
  | pendingConnect => exact absurd rfl settled
  | connected => exact allocated
  | disconnected => exact allocated

/-- Allocate the identifier of an event that the phase allows. -/
def prepareEvent (state : WalletSessionState) (kind : WalletEventKind) :
    Except SessionStateError PreparedWalletEvent := do
  let phase ← nextPhase state.phase kind
  let id ← nextEventId state.lastEventId
  return ⟨id, ⟨phase, state.lastRequestId, some id, validLifecycle_settled phase.2 _ rfl⟩⟩

theorem eventId_isSome (state : WalletSessionState) (connected : state.phase = .connected) :
    state.lastEventId.isSome = true := by
  have valid := state.lifecycle
  rwa [connected] at valid

/-- The state after a request: its identifier is the new baseline. -/
def acceptRequest (state : WalletSessionState) (connected : state.phase = .connected)
    (requestId : RpcRequestId) (closesSession : Bool) : WalletSessionState where
  phase := if closesSession then .disconnected else state.phase
  lastRequestId := some requestId
  lastEventId := state.lastEventId
  lifecycle := by
    refine validLifecycle_settled ?_ _ (state.eventId_isSome connected)
    rw [connected]
    cases closesSession <;> decide

/-- Accept a request that is newer than all before it. The method need not be known; an exact
request to disconnect ends the session. -/
def prepareRequest (state : WalletSessionState) (request : AppRequest) :
    Except SessionStateError PreparedAppRequest :=
  if connected : state.phase = .connected then do
    let requestId ← RpcRequestId.fromStr request.id
    if state.lastRequestId.all (· < requestId) then
      let closesSession := request.method == "disconnect" && request.params.isEmpty
      return ⟨requestId, closesSession, state.acceptRequest connected requestId closesSession⟩
    else .error .requestIdNotIncreasing
  else .error .sessionNotConnected

section Specifications

variable {state : WalletSessionState}

theorem prepareEvent_ok {kind : WalletEventKind} {prepared : PreparedWalletEvent}
    (ok : state.prepareEvent kind = .ok prepared) :
    ∃ phase, nextPhase state.phase kind = .ok phase ∧
      nextEventId state.lastEventId = .ok prepared.id ∧
      prepared.nextState.phase = phase ∧
      prepared.nextState.lastRequestId = state.lastRequestId ∧
      prepared.nextState.lastEventId = some prepared.id := by
  obtain ⟨phase, allowed, rest⟩ := except_bind_eq_ok.mp ok
  obtain ⟨id, allocated, same⟩ := except_bind_eq_ok.mp rest
  cases same
  exact ⟨phase, allowed, allocated, rfl, rfl, rfl⟩

theorem prepareRequest_ok {request : AppRequest} {prepared : PreparedAppRequest}
    (ok : state.prepareRequest request = .ok prepared) :
    state.phase = .connected ∧
      RpcRequestId.fromStr request.id = .ok prepared.requestId ∧
      (∀ last ∈ state.lastRequestId, last < prepared.requestId) ∧
      prepared.closesSession = (request.method == "disconnect" && request.params.isEmpty) ∧
      prepared.nextState.phase = (if prepared.closesSession then .disconnected else .connected) ∧
      prepared.nextState.lastRequestId = some prepared.requestId ∧
      prepared.nextState.lastEventId = state.lastEventId := by
  unfold prepareRequest at ok
  split at ok
  · next connected =>
      obtain ⟨requestId, parsed, rest⟩ := except_bind_eq_ok.mp ok
      split at rest
      · next newer =>
          cases rest
          refine ⟨connected, parsed, ?_, rfl, ?_, rfl, rfl⟩
          · intro last stored
            rw [stored, Option.all_some] at newer
            exact of_decide_eq_true newer
          · exact congrArg (ite _ WalletSessionPhase.disconnected) connected
      · cases rest
  · cases ok

end Specifications

end WalletSessionState

end State

end WalletEngine
