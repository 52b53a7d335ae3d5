import WalletEngine.TonConnect.Session

/-! # The calls of a session that write to the dApp -/

namespace WalletEngine.TonConnectSession

open Call

variable {lib : Libraries} {α β : Type} {nonce : Option (Vector UInt8 24)}

/-- The call fails without effect, or no message was staged before. -/
structure Guarded (call : SessionM lib α) : Prop where
  atomic : Atomic call
  idle : ∀ {before value after}, call.run before = .ok value after → before.pendingPost = none

theorem guarded {call : SessionM lib α} (atomic : Atomic call) :
    Guarded (do ensureNoPendingPost; call) := by
  have reads : ReadOnly (ensureNoPendingPost : SessionM lib Unit) :=
    readOnly_get.bind fun _ => readOnly_ensure _ _
  refine ⟨reads.bind_atomic fun _ => atomic, fun ran => ?_⟩
  obtain ⟨_, between, ensured, -⟩ := bind_returns.mp ran
  rw [ensureNoPendingPost, get_bind_returns] at ensured
  exact (ensure_returns.mp ensured).1

/-- A call on the client may fail, what follows it may not. -/
theorem atomic_client {call : ClientM lib α} {next : α → SessionM lib β}
    (atomic : Atomic call) (certain : ∀ value, Infallible (next value)) :
    Atomic (withClient call >>= next) := by
  refine Atomic.bind_infallible (fun before error after failed => ?_) certain
  rw [EStateM.run, withClient, within] at failed
  split at failed
  · cases failed
  · next reason inner ran =>
    cases failed
    rw [atomic _ _ _ ran]

theorem infallible_stagePost (post : PreparedBridgePost lib) : Infallible (stagePost post) :=
  (infallible_modify _).bind fun _ => infallible_pure _

theorem guarded_prepareResponse (id : String) (response : WalletResponse) :
    Guarded (prepareResponse nonce id response : SessionM lib _) := by
  refine guarded (readOnly_get.bind_atomic fun _ =>
    (readOnly_require _ _).bind_atomic fun incoming => atomic_client ?_ fun _ =>
      (infallible_modify _).bind fun _ => infallible_stagePost _)
  refine ((readOnly_ensure _ _).bind fun _ => ?_).atomic
  cases incoming.request.decode lib with
  | ok known =>
    exact (readOnly_check _ _).bind fun _ => TonConnectClient.readOnly_preparePost _ _ _
  | error error => exact TonConnectClient.readOnly_preparePost _ _ _

/-- A message that waits for the bridge is never replaced, and a failed call can be repeated. -/
theorem session_calls_guarded (account : TonConnectAccountInfo)
    (proof : Option TonConnectProofReply) (device : TonConnectDevice) (id text : String)
    (code : RpcErrorCode) :
    List.Forall Guarded ([approveConnect nonce account proof device, rejectConnect nonce text,
      prepareSendSuccess nonce id text, prepareSignMessageSuccess nonce id text,
      prepareDisconnectSuccess nonce id, prepareError nonce id code text,
      disconnect nonce] : List (SessionM lib _)) := by
  refine ⟨guarded (readOnly_get.bind_atomic fun _ => ?_),
    guarded (atomic_client (TonConnectClient.atomic_rejectConnect _ _) infallible_stagePost),
    guarded_prepareResponse _ _, ?_, guarded_prepareResponse _ _, guarded_prepareResponse _ _,
    guarded (atomic_client (TonConnectClient.atomic_disconnect _) infallible_stagePost)⟩
  · refine (readOnly_require _ _).bind_atomic fun _ => ?_
    refine (readOnly_check _ _).bind_atomic fun ⟨_, _⟩ => ?_
    refine (readOnly_check _ _).bind_atomic fun _ => ?_
    refine (readOnly_check _ _).bind_atomic fun _ => ?_
    exact atomic_client (TonConnectClient.atomic_approveConnect _ _ _) fun _ =>
      (infallible_modify _).bind fun _ => infallible_stagePost _
  · rw [prepareSignMessageSuccess]
    cases (ValidatedString.tryFrom text : Option (CellBoc lib)) with
    | some boc => exact guarded_prepareResponse _ _
    | none => exact ⟨(readOnly_throw _).atomic, by rintro _ _ _ ⟨⟩⟩

end WalletEngine.TonConnectSession
