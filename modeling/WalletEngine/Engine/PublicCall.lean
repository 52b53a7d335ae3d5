import WalletEngine.Async.System
import WalletEngine.Engine.Standalone
import WalletEngine.Engine.Views

/-! # Public calls and the systems they run in -/

namespace WalletEngine

variable (P : Platform)

/-- The public operations of a client. -/
inductive PublicCall where
  | send (request : SendRequest)
  | signMessage (request : SignMessageRequest)
  | sendBoc (request : SendBocRequest)
  | cancelSend
  | resolvePending
  | refresh
  | cancelRefresh
  | waitForChange (afterRevision : Nat)
  | shutdown (rounds : Nat)
  | loadMoreActivity
  | cancelLoadMoreActivity
  | refreshNfts
  | cancelRefreshNfts
  | loadMoreNfts
  | cancelLoadMoreNfts
  | previewSend (request : SendPreviewRequest)
  | previewSendBoc (request : SendBocRequest)
  | previewTonConnect (request : SendRequest)
  | previewSignMessage (request : SendPreviewRequest)
  | cancelSendPreview
  | previewNftTransfer (request : NftTransferPreviewRequest)
  | sendNftTransfer (request : NftTransferRequest)
  | prepareTransfer (request : PrepareTransferRequest)
  | resolveDns (name : String)
  | prepareKeyRotation (request : PrepareKeyRotationRequest)
  | createEncryptedComment (request : CreateEncryptedCommentRequest)
  | resolveEncryptedCommentRecipient (request : EncryptedCommentRecipientRequest)
  | decryptComment (request : DecryptCommentRequest)
  deriving DecidableEq

/-- What a public operation returns. -/
inductive Reply where
  | sent (result : Except WalletClientError SendResult)
  | signed (result : Except WalletClientError SignMessageResult)
  | sendSnapshot (result : Except WalletClientError SendSnapshot)
  | update (result : Except WalletClientError WalletUpdate)
  | snapshot (result : Except WalletClientError WalletSnapshot)
  | done (result : Except WalletClientError Unit)
  | stopped (result : Except WalletClientError (Option Unit))
  | preview (result : Except WalletClientError SendPreview)
  | signPreview (result : Except WalletClientError SignMessagePreview)
  | transfer (result : Except WalletClientError PreparedTransferPair)
  | address (result : Except WalletClientError (Option TonAddressString))
  | rotation (result : Except WalletClientError PreparedKeyRotation)
  | body (result : Except WalletClientError Boc)
  | recipient (result : Except WalletClientError PublicKey)
  | comment (result : Except WalletClientError String)

variable {P}

/-- Run an operation to its result. -/
def Engine.reply {α : Type} (operation : Engine P α)
    (make : Except WalletClientError α → Reply) : Async State (walletHost P) Reply :=
  Async.bind operation fun result => .done (make result)

def PublicCall.routine : PublicCall → Async State (walletHost P) Reply
  | .send request => (Engine.send request).reply .sent
  | .signMessage request => (Engine.signMessage request).reply .signed
  | .sendBoc request => (Engine.sendBoc request).reply .sent
  | .cancelSend => Engine.cancelSend.reply .done
  | .resolvePending => Engine.resolvePending.reply .sendSnapshot
  | .refresh => Engine.refresh.reply .update
  | .cancelRefresh => Engine.cancelRefresh.reply .done
  | .waitForChange afterRevision => (Engine.waitForChange afterRevision).reply .snapshot
  | .shutdown rounds => (Engine.shutdown rounds).reply .stopped
  | .loadMoreActivity => Engine.loadMoreActivity.reply .update
  | .cancelLoadMoreActivity => Engine.cancelLoadMoreActivity.reply .done
  | .refreshNfts => Engine.refreshNfts.reply .update
  | .cancelRefreshNfts => Engine.cancelRefreshNfts.reply .done
  | .loadMoreNfts => Engine.loadMoreNfts.reply .update
  | .cancelLoadMoreNfts => Engine.cancelLoadMoreNfts.reply .done
  | .previewSend request => (Engine.previewSend request).reply .preview
  | .previewSendBoc request => (Engine.previewSendBoc request).reply .preview
  | .previewTonConnect request => (Engine.previewTonConnect request).reply .preview
  | .previewSignMessage request => (Engine.previewSignMessage request).reply .signPreview
  | .cancelSendPreview => Engine.cancelSendPreview.reply .done
  | .previewNftTransfer request => (Engine.previewNftTransfer request).reply .preview
  | .sendNftTransfer request => (Engine.sendNftTransfer request).reply .sent
  | .prepareTransfer request => (Engine.prepareTransfer request).reply .transfer
  | .resolveDns name => (Engine.resolveDns name).reply .address
  | .prepareKeyRotation request => (Engine.prepareKeyRotation request).reply .rotation
  | .createEncryptedComment request => (Engine.createEncryptedComment request).reply .body
  | .resolveEncryptedCommentRecipient request =>
    (Engine.resolveEncryptedCommentRecipient request).reply .recipient
  | .decryptComment request => (Engine.decryptComment request).reply .comment

variable (P) in
/-- How the hosts of all clients behave together. -/
structure HostModel where
  World : Type
  Choice : Type
  respond : World → (call : HostCall P) → Choice → Option (HostCall.Answer P call × World)
  drift : World → Choice → Option World

/-- Any number of clients over one host model. -/
def walletSystem (host : HostModel P) : System where
  State := State
  host := walletHost P
  Setup := WalletClientConfig
  Invocation := PublicCall
  Value := Reply
  World := host.World
  Choice := host.Choice
  fresh := State.initial
  routine := PublicCall.routine
  respond := host.respond
  drift := host.drift

end WalletEngine
