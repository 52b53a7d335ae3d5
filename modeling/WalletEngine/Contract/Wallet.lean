import WalletEngine.Contract.Send
import WalletEngine.Contract.Standalone

/-! # Every public call follows the rules -/

namespace WalletEngine

variable {P : Platform}

/-- What a reply says about the operation that gave it. -/
def ReplyKnown (call : PublicCall) (log : Log P) : Reply → Prop
  | .signed (.ok result) => ∃ config prepared mutation,
      HandedOff log call result config prepared mutation
  | .sendSnapshot (.ok snapshot) => Displayed log snapshot
  | .update (.ok update) => Displayed log update.snapshot.send
  | .snapshot (.ok snapshot) => Displayed log snapshot.send
  | _ => True

/-- The send snapshot that a reply carries. -/
def Reply.sendSnapshot? : Reply → Option SendSnapshot
  | .sendSnapshot (.ok shown) => some shown
  | .update (.ok shown) => some shown.snapshot.send
  | .snapshot (.ok shown) => some shown.send
  | _ => none

theorem ReplyKnown.displayed {call : PublicCall} {log : Log P} {reply : Reply}
    {snapshot : SendSnapshot} (known : ReplyKnown call log reply)
    (carries : reply.sendSnapshot? = some snapshot) : Displayed log snapshot := by
  unfold Reply.sendSnapshot? at carries
  split at carries
  all_goals first
    | cases carries; exact known
    | cases carries

section Routines

variable {call : PublicCall} {log : Log P} {α : Type} {success : Log P → α → Prop}
  {operation : Engine P α} {make : Except WalletClientError α → Reply}

/-- The reply of an operation that follows the rules. -/
theorem Engine.Performs.reply (performs : operation.Performs call success log)
    (onSuccess : ∀ later value, success later value → ReplyKnown call later (make (.ok value)))
    (onFailure : ∀ (later : Log P) error, ReplyKnown call later (make (.error error))) :
    (operation.reply make).Obeys (walletRule P call) (ReplyKnown call) log := by
  refine Async.Obeys.bind performs fun later result _ known => ?_
  cases result with
  | ok value => exact onSuccess later value known
  | error error => exact onFailure later error

/-- Operations whose reply promises nothing. -/
theorem Engine.Performs.reply_of_forall (performs : operation.Performs call success log)
    (promises : ∀ (later : Log P) result, ReplyKnown call later (make result)) :
    (operation.reply make).Obeys (walletRule P call) (ReplyKnown call) log :=
  performs.reply (fun later _ _ => promises later _) fun later _ => promises later _

theorem sendNftTransfer_performs {request : NftTransferRequest} :
    (Engine.sendNftTransfer request : Engine P _).Performs (.sendNftTransfer request)
      (fun _ _ => True) [] := by
  have checked : (Engine.checkedNftTransfer request.operationId request.intent : Engine P _).Quiet
      (fun _ canonical => ∃ source, canonicalizeNftTransfer P.keys request.operationId source
        request.intent = .ok canonical) [] := checkedNftTransfer_quiet
  refine (checked (.sendNftTransfer request) nofun).continue fun later canonical _ known kept => ?_
  obtain ⟨⟨source, built⟩, free⟩ := known
  refine send_performs (free fun _ => not_reservedSend_nil) (kept uncommitted_nil) rfl
    fun config prepared signed => ?_
  exact ⟨source, canonical, built, signed⟩

theorem PublicCall.routine_obeys (call : PublicCall) :
    call.routine.Obeys (walletRule P call) (ReplyKnown call) [] := by
  cases call with
  | send request =>
    have performs : (Engine.send request : Engine P _).Performs (.send request)
        (fun _ _ => True) [] :=
      send_performs (fun _ => not_reservedSend_nil) uncommitted_nil rfl fun _ _ signed => signed
    exact performs.reply_of_forall fun _ _ => trivial
  | signMessage request =>
    exact signMessage_performs.reply (fun _ _ known => known) fun _ _ => trivial
  | sendBoc request => exact sendBoc_performs.reply_of_forall fun _ _ => trivial
  | sendNftTransfer request => exact sendNftTransfer_performs.reply_of_forall fun _ _ => trivial
  | cancelSend => exact cancelSend_follows.performs.reply_of_forall fun _ _ => trivial
  | resolvePending =>
    exact resolvePending_follows.performs.reply (fun _ _ known => known) fun _ _ => trivial
  | refresh =>
    exact (refresh_follows (by nofun)).performs.reply (fun _ _ known => known) fun _ _ => trivial
  | waitForChange afterRevision =>
    exact waitForChange_follows.performs.reply (fun _ _ known => known) fun _ _ => trivial
  | shutdown rounds => exact (shutdown_follows rfl).performs.reply_of_forall fun _ _ => trivial
  | loadMoreActivity =>
    exact (loadMoreActivity_quiet.follows (by nofun)).performs.reply (fun _ _ known => known)
      fun _ _ => trivial
  | refreshNfts =>
    exact (refreshNfts_quiet.follows (by nofun)).performs.reply (fun _ _ known => known)
      fun _ _ => trivial
  | loadMoreNfts =>
    exact (loadMoreNfts_quiet.follows (by nofun)).performs.reply (fun _ _ known => known)
      fun _ _ => trivial
  | cancelRefresh =>
    exact (cancelRefresh_follows (by nofun)).performs.reply_of_forall fun _ _ => trivial
  | cancelLoadMoreActivity =>
    exact (cancelLoadMoreActivity_quiet.follows (by nofun)).performs.reply_of_forall
      fun _ _ => trivial
  | cancelRefreshNfts =>
    exact (cancelRefreshNfts_quiet.follows (by nofun)).performs.reply_of_forall fun _ _ => trivial
  | cancelLoadMoreNfts =>
    exact (cancelLoadMoreNfts_quiet.follows (by nofun)).performs.reply_of_forall
      fun _ _ => trivial
  | cancelSendPreview =>
    exact (cancelSendPreview_quiet.follows (by nofun)).performs.reply_of_forall fun _ _ => trivial
  | previewSend request =>
    exact (previewSend_quiet.follows (by nofun)).performs.reply_of_forall fun _ _ => trivial
  | previewSendBoc request =>
    exact (previewSendBoc_quiet.follows (by nofun)).performs.reply_of_forall fun _ _ => trivial
  | previewTonConnect request =>
    exact (previewSend_quiet.follows (by nofun)).performs.reply_of_forall fun _ _ => trivial
  | previewSignMessage request =>
    exact (previewSignMessage_quiet.follows (by nofun)).performs.reply_of_forall
      fun _ _ => trivial
  | previewNftTransfer request =>
    exact (previewNftTransfer_quiet.follows (by nofun)).performs.reply_of_forall
      fun _ _ => trivial
  | prepareTransfer request =>
    exact prepareTransfer_follows.performs.reply_of_forall fun _ _ => trivial
  | resolveDns name => exact resolveDns_follows.performs.reply_of_forall fun _ _ => trivial
  | prepareKeyRotation request =>
    exact prepareKeyRotation_follows.performs.reply_of_forall fun _ _ => trivial
  | createEncryptedComment request =>
    exact createEncryptedComment_follows.performs.reply_of_forall fun _ _ => trivial
  | resolveEncryptedCommentRecipient request =>
    exact resolveEncryptedCommentRecipient_follows.performs.reply_of_forall fun _ _ => trivial
  | decryptComment request =>
    exact decryptComment_follows.performs.reply_of_forall fun _ _ => trivial

end Routines

section System

variable (host : HostModel P)

/-- The contract that all public calls obey. -/
def walletContract : (walletSystem host).Contract where
  rule := walletRule P
  post := ReplyKnown

variable {host}

/-- Every reachable configuration of a wallet system is reached by moves under
the contract. -/
theorem walletSystem_disciplined
    {allowed : (walletSystem host).View → (walletSystem host).Event → Prop} {world : host.World}
    {config : (walletSystem host).Config}
    (reached : System.Reachable allowed (System.initial world) config) :
    System.Run (walletContract host) allowed
      (System.initial (S := walletSystem host) world).toView config.toView :=
  reached.disciplined fun _ _ _ call _ => PublicCall.routine_obeys call

/-- A suspended operation still follows the rules of its call. -/
theorem walletSystem_suspended
    {allowed : (walletSystem host).View → (walletSystem host).Event → Prop} {world : host.World}
    {config : (walletSystem host).Config} {client routine : Nat}
    {body : Async State (walletHost P) Reply}
    (reached : System.Reachable allowed (System.initial world) config)
    (running : config.routines routine = some (client, body)) :
    ∃ call, .invoked client routine call ∈ config.history ∧
      body.Obeys (walletRule P call) (ReplyKnown call) (System.traceOf routine config.history) :=
  @System.Reachable.suspended _ _ (walletContract host) _ _ _ _ _ reached
    (fun _ _ _ call _ => PublicCall.routine_obeys call) running

end System

end WalletEngine
